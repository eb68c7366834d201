import RelationalSearch.Calendar.Zone

/-!
# Zones of Africa

Rows of the time zone database; `ZoneRow` says how they are read.
-/

namespace RelationalSearch.ZoneTable

/-- Zones of Africa. -/
def africa : List ZoneRow :=
 [⟨"Africa/Abidjan", [-968, 0], none,
    ["rpc60qwB"]⟩,
  ⟨"Africa/Algiers", [732, 561, 0, 3600, 7200], none,
    ["rehh63oBafgo4rC2qx1nlD5luo0C8y800Da4tc0C7vc00Dauqo0C7idc0Db7pc0C6sg00Dcyo00C7ayo0D53c00C",
     "9idxc0D3i040C51mw0D253uk0E9o2k0D92040E8l3s0Djutc0C4uy840D3rdzw0C46xc00D7x6o0C2xco40Dgkao",
     "0E9d440Dkiqg0C9d440D9q2s0C9cyk0D"]⟩,
  ⟨"Africa/Bissau", [-3740, -3600, 0], none,
    ["rpc62s0Bwvoyo0C"]⟩,
  ⟨"Africa/Cairo", [7509, 7200, 10800], some ⟨7200, 10800, ⟨4, 5, 5, 0⟩, ⟨10, 5, 4, 86400⟩⟩,
    ["rjgskvfBkrj48lC40d80Ba31g0C7x3w0Ba4w40Caqyk0B80ys0Cb07w0B7tk40Cb07w0B8jhg0Ca8fw0B60go40C",
     "7el80Bawo40C7v980Bawqw0C7tk40Bb07w0C7tk40Bayd80C7tk40Bayd80C7tk40Bayd80C7tk40Bb07w0C7tk4",
     "0Bayd80C7tk40Bayd80C7ves0Bawik0C7ves0Bayd80C7ves0Bawik0C7ves0Bawik0C7ves0Bawik0C7ves0Bay",
     "d80C7ves0Bawik0C7ves0Bawik0C7ves0Bawik0C7ves0Bayd80C7ves0Bawik0C7ves0Bawik0C7ves0Bawik0C",
     "7ves0Bayd80C7ves0Bawik0C7ves0Bf9x80C3i040Beluk0C462s0Bayd80C7ves0Bawik0C7ves0Bawik0C7ves",
     "0Bawik0C7ves0Bayd80C7ves0Bb5rw0C7m5g0Bawik0C7ves0Bawik0C7ves0Bayd80C7ves0Bawik0C7ves0Baw",
     "ik0C7ves0Baqvs0C7x3w0Basys0C7x3w0Basys0C7x3w0Basys0C7x3w0Bb5xg0C7x3w0Basys0C7x3w0Basys0C",
     "7x3w0Basys0C7x3w0Basys0C7x3w0Bb5xg0C7x3w0Basys0C7x3w0Basys0C7k580Bb5xg0C6u7w0Bbvus0C6h98",
     "0Bc8tg0C64ak0Bcyqs0C5anw0B1jms0C12t80B1w22s0C25p80B1sw40C2vmk0B4hbhg0C"]⟩,
  ⟨"Africa/Casablanca", [-1820, 0, 3600], none,
    ["rqabo2kBdi7nxgC3huk0B51k40C2znuk0B2dp9g0C776k0B8nt2s0C657w0B3ifxg0C3jp80Bva040C4qak0Be1m",
     "s0C7pp80Bcnms0C3afw0B2xi840Cxqqk0Bbp56s0C4qak0Be1ms0C45x80Bd2g40C51ek0Bc8tg0C64ak0Be1sc0",
     "C47uo0B1leo0C23xc0Basw00C3lmo0B1qyo0C40g00B7x6o0C4mo00B1stc0C4deo0B7x6o0C3ylc0B1stc0C51h",
     "c0B7x6o0C3lmo0B1stc0C5reo0B7k800C2vpc0B25s00C64dc0B7k800C2iqo0B1stc0Cgkao0B1stc0Cg7c00B2",
     "5s00Cg7c00B1stc0Cg7c00B25s00Cg7c00B1stc0Cgkao0B1stc0Cg7c00B25s00Cg7c00B1stc0Cgkao0B1stc0",
     "Cg7c00B25s00Cg7c00B1stc0Cg7c00B25s00Cg7c00B1stc0Cgkao0B1stc0Cg7c00B25s00Cg7c00B1stc0Cg7c",
     "00B25s00Cg7c00B25s00Cg7c00B1stc0Cg7c00B25s00Cg7c00B1stc0Cgkao0B1stc0Cg7c00B25s00Cg7c00B1",
     "stc0Cg7c00B25s00Cg7c00B25s00Cg7c00B1stc0Cg7c00B25s00Cg7c00B1stc0Cgkao0B1stc0Cg7c00B25s00",
     "Cg7c00B1stc0Cg7c00B25s00Cg7c00B25s00Cg7c00B1stc0Cg7c00B25s00Cg7c00B1stc0Cgkao0B1stc0Cg7c",
     "00B25s00Cg7c00B1stc0Cg7c00B25s00Cg7c00B25s00Cg7c00B1stc0Cg7c00B25s00Cg7c00B1stc0Cgkao0B1",
     "stc0Cg7c00B25s00Cg7c00B1stc0Cg7c00B25s00Cg7c00B25s00Cg7c00B1stc0Cg7c00B25s00Cg7c00B1stc0",
     "Cgkao0B1stc0Cg7c00B25s00Cg7c00B1stc0Cg7c00B25s00Cg7c00B25s00Cg7c00B1stc0Cg7c00B25s00Cg7c",
     "00B1stc0Cgkao0B1stc0Cg7c00B25s00Cg7c00B1stc0Cg7c00B25s00Cg7c00B1stc0Cgkao0B1stc0Cg7c00B2",
     "5s00Cg7c00B1stc0Cgkao0B1stc0Cg7c00B25s00C"]⟩,
  ⟨"Africa/Ceuta", [-1276, 0, 3600, 7200], some ⟨3600, 7200, ⟨3, 5, 0, 7200⟩, ⟨10, 5, 0, 10800⟩⟩,
    ["rjlj400B91vek0C7x3w0B2vt440C8sqs0Bssyk0C8n6s0B9px80C905g0Ba2yo0C902o0Bk69dc0C657w0B3ifxg",
     "0C3jp80Bva040C4qak0Be1ms0C7pp80Bcnms0C3afw0B2xi840C129us0D9d1c0C9d1c0D9d1c0C9d1c0D9d1c0C",
     "9d1c0D9d1c0C9d1c0D9q000C9d1c0D9d1c0C9d1c0D9d1c0C9d1c0D9d1c0C9d1c0D9d1c0C9d1c0D9d1c0C9q00",
     "0D"]⟩,
  ⟨"Africa/El_Aaiun", [-3168, -3600, 0, 3600], none,
    ["s0tjjs0Bm2g0c0Cvek0D4qak0Ce1ms0D7pp80Ccnms0D3afw0Cfke5g0D4qak0Ce1ms0D45x80Cd2g40D51ek0Cc",
     "8tg0D64ak0Ce1sc0D47uo0C1leo0D23xc0Casw00D3lmo0C1qyo0D40g00C7x6o0D4mo00C1stc0D4deo0C7x6o0",
     "D3ylc0C1stc0D51hc0C7x6o0D3lmo0C1stc0D5reo0C7k800D2vpc0C25s00D64dc0C7k800D2iqo0C1stc0Dgka",
     "o0C1stc0Dg7c00C25s00Dg7c00C1stc0Dg7c00C25s00Dg7c00C1stc0Dgkao0C1stc0Dg7c00C25s00Dg7c00C1",
     "stc0Dgkao0C1stc0Dg7c00C25s00Dg7c00C1stc0Dg7c00C25s00Dg7c00C1stc0Dgkao0C1stc0Dg7c00C25s00",
     "Dg7c00C1stc0Dg7c00C25s00Dg7c00C25s00Dg7c00C1stc0Dg7c00C25s00Dg7c00C1stc0Dgkao0C1stc0Dg7c",
     "00C25s00Dg7c00C1stc0Dg7c00C25s00Dg7c00C25s00Dg7c00C1stc0Dg7c00C25s00Dg7c00C1stc0Dgkao0C1",
     "stc0Dg7c00C25s00Dg7c00C1stc0Dg7c00C25s00Dg7c00C25s00Dg7c00C1stc0Dg7c00C25s00Dg7c00C1stc0",
     "Dgkao0C1stc0Dg7c00C25s00Dg7c00C1stc0Dg7c00C25s00Dg7c00C25s00Dg7c00C1stc0Dg7c00C25s00Dg7c",
     "00C1stc0Dgkao0C1stc0Dg7c00C25s00Dg7c00C1stc0Dg7c00C25s00Dg7c00C25s00Dg7c00C1stc0Dg7c00C2",
     "5s00Dg7c00C1stc0Dgkao0C1stc0Dg7c00C25s00Dg7c00C1stc0Dg7c00C25s00Dg7c00C25s00Dg7c00C1stc0",
     "Dg7c00C25s00Dg7c00C1stc0Dgkao0C1stc0Dg7c00C25s00Dg7c00C1stc0Dg7c00C25s00Dg7c00C1stc0Dgka",
     "o0C1stc0Dg7c00C25s00Dg7c00C1stc0Dgkao0C1stc0Dg7c00C25s00D"]⟩,
  ⟨"Africa/Johannesburg", [6720, 5400, 7200, 10800], none,
    ["reyeatcB5rpt0oCkn7o60D9cyk0C9d440D9cyk0C"]⟩,
  ⟨"Africa/Juba", [7588, 7200, 10800], none,
    ["rz95ot8BkixuysC8l6k0Ba4w40C8n180Ba6qs0C8n180Ba31g0C8ovw0Ba16s0C8qqk0B9zc40C8sl80B9xhg0C8",
     "wak0B9ts40C8y580Ba4w40C8n180Ba31g0C8ovw0Ba16s0C8sl80B9xhg0C8ufw0B9vms0C8wak0B9ts40C8y580",
     "Ba4w40C8ovw0Ba16s0C8qqk0B7frw40Cazg180B"]⟩,
  ⟨"Africa/Khartoum", [7808, 7200, 10800], none,
    ["rz95on4Bkixv4wC8l6k0Ba4w40C8n180Ba6qs0C8n180Ba31g0C8ovw0Ba16s0C8qqk0B9zc40C8sl80B9xhg0C8",
     "wak0B9ts40C8y580Ba4w40C8n180Ba31g0C8ovw0Ba16s0C8sl80B9xhg0C8ufw0B9vms0C8wak0B9ts40C8y580",
     "Ba4w40C8ovw0Ba16s0C8qqk0B7frw40C9ac180B"]⟩,
  ⟨"Africa/Lagos", [815, 0, 1800, 3600], none,
    ["rlxzu1dB1kdnanA2ve7ddC2yfgknD"]⟩,
  ⟨"Africa/Maputo", [7818, 7200], none,
    ["rnru1yuB"]⟩,
  ⟨"Africa/Monrovia", [-2588, -2670, 0], none,
    ["rt2qhzwBrl202aC"]⟩,
  ⟨"Africa/Nairobi", [8836, 9000, 10800, 9900], none,
    ["rnf8bukBaiwqjgCsg1a0B3nbte0D2wu1z0C"]⟩,
  ⟨"Africa/Ndjamena", [3612, 3600, 7200], none,
    ["rpc5x7oBzdk5ccC7iak0B"]⟩,
  ⟨"Africa/Sao_Tome", [1616, -2205, 0, 3600], none,
    ["raq4xf4Bem12kwC1jbm840Dirxc0C"]⟩,
  ⟨"Africa/Tripoli", [3164, 3600, 7200], none,
    ["rtih1k4Bgl6ajwC422c0Bxado0C4bbo0Bwrpg0C4s580B1kdpg0Cc05bw0B4mqs0C9et80B9d440C9et80B9eys0",
     "C9et80B9mdg0C95jw0B9io40C9cyk0B99es0C9et80B9eys0C9et80B9d440C9et80Bb2840C3cf3w0B9kis0C85",
     "5s40B75eo0C"]⟩,
  ⟨"Africa/Tunis", [2444, 561, 3600, 7200], none,
    ["r9cjq44Bfke44bCenxevlDb5uo0C53c00Du8w00C7x9g0Dc8w80C7k800Dz3w0Cew40D8bx80C9d440D9nx00C92",
     "5o0D8l100Cgi3440D7k800Cb9k00D7vc00C51mw00D5ytc0C9d1c0D9d1c0Cb9k00D7thc0C7m0tc0D7tk40C93u",
     "s0Db5uo0C7k800Db5uo0C7x6o0Dasw00C"]⟩,
  ⟨"Africa/Windhoek", [4104, 5400, 7200, 10800, 3600], none,
    ["reyecu0B5rpr00Ckn7o60D9cyk0Cqm87w0E8lho0Cast80E7x9g0Cb5rw0E7kas0Cb5rw0E7x9g0Cast80E7x9g0",
     "Cast80E7x9g0Cast80E7x9g0Cast80E7x9g0Cb5rw0E7kas0Cb5rw0E7x9g0Cast80E7x9g0Cast80E7x9g0Cast",
     "80E7x9g0Cast80E7x9g0Cb5rw0E7x9g0Cast80E7x9g0Cast80E7x9g0Cast80E7x9g0Cast80E7x9g0Cb5rw0E7",
     "kas0Cb5rw0E7x9g0Cast80E7x9g0Cast80E7x9g0Cast80E7x9g0C"]⟩]

end RelationalSearch.ZoneTable
