import RelationalSearch.Calendar.Zone

/-!
# Zones of the Americas, second half

Rows of the time zone database; `ZoneRow` says how they are read.
-/

namespace RelationalSearch.ZoneTable

/-- Zones of the Americas, second half. -/
def americaSecond : List ZoneRow :=
 [⟨"America/Glace_Bay", [-14388, -14400, -10800], some ⟨-14400, -10800, ⟨3, 2, 0, 7200⟩, ⟨11, 1, 0, 7200⟩⟩,
    ["rkcswfoB89fk8cCa2vw0Bc5jxg0C1wd180B3y8g40C7x3w0B9pa5g0C9cyk0B9d440C9cyk0B9d440C9cyk0B9d4",
     "40C9cyk0B9d440C9px80B905g0C9px80B9d440C9cyk0B9d440C9cyk0B9d440C9cyk0B9d440C9cyk0B9d440C9",
     "px80B905g0C9px80B9d440C9cyk0B9d440C9cyk0B9d440C9cyk0B8a840Cafuk0B8a840Cast80B7x9g0Cast80",
     "B7x9g0Cast80B8a840Cafuk0B8a840Cafuk0B8a840Cast80B7x9g0Cast80B7x9g0Cast80B8a840Cafuk0B8a8",
     "40Cafuk0B8a840Cafuk0B8a840Cast80B7x9g0Cast80B7x9g0Cast80B8a840Cafuk0B8a840Cafuk0B8a840Ca",
     "st80B7x9g0Cast80B7x9g0Cast80B6udg0C"]⟩,
  ⟨"America/Goose_Bay", [-14500, -12652, -9052, -12600, -9000, -14400, -10800, -7200], some ⟨-14400, -10800, ⟨3, 2, 0, 7200⟩, ⟨11, 1, 0, 7200⟩⟩,
    ["raq59usBhw35goCa2vw0B8kjbw0DkzjykE7k580Db5xg0E7k580Db5xg0E7k580Dbiw40E776k0Dbiw40E7k580D",
     "b5xg0E7k580Db5xg0E1roo40Dbiw40E7k580Db5xg0E7k580Db5xg0E7k580Db5xg0E7k580Dbiw40E7k580Dag0",
     "40E7x3w0Dasys0E7x3w0Dasys0E7x3w0Dasys0E7x3w0Dasys0E7x3w0Db5xg0E7x3w0Dasys0E7x3w0Dasys0E7",
     "x3w0Dasys0E7x3w0Dasys0E9px80D9d440E9cyk0D9d440E9cyk0D9d440E9cyk0D9d440E9cyk0D9d440E9px80",
     "D6y2s0F22420G9px80F9d440G9cyk0F9d440G9cyk0F9d440G9cyk0F9d440G9cyk0F9d440G9px80F9d440G9cy",
     "k0F9d440G9cyk0F9d440G9cyk0F9d440G9cyk0F9d440G9px80F905g0G9px80F9d440G9cyk0F9d440G9cyk0F9",
     "d440G9cyk0F9d440G9cyk0F9d440G9px80F905g0G9px80F9d440G9cyk0F9d440G9cyk0F9d440G9cyk0F8a2lo",
     "Gafuk0F8a840Hasqg0F7xc80Gast80F7x9g0Gast80F8a840Gafuk0F8a840Gafuk0F8a840Gast80F7x9g0Gast",
     "80F7x9g0Gast80F8a840Gafuk0F8a840Gafuk0F8a840Gafuk0F8a840Gast80F7x9g0Gast80F7x9g0Gast80F8",
     "a840Gafuk0F8a840Gafuk0F8a840Gast80F7x9g0Gast80F7x9g0Gast80F6udg0Gc8nw0F6hes0Gc8nw0F6hes0",
     "Gc8nw0F6udg0Gc8nw0F6hes0Gc8tecF"]⟩,
  ⟨"America/Grand_Turk", [-17072, -18430, -18000, -14400], some ⟨-18000, -14400, ⟨3, 2, 0, 7200⟩, ⟨11, 1, 0, 7200⟩⟩,
    ["rduwl68Bbiv7pqCz3brw2D9cyk0C9d440D9cyk0C9d440D9cyk0C9d440D9px80C905g0D9px80C9d440D9cyk0C",
     "9d440D9cyk0C9d440D9cyk0C8a840Dafuk0C8a840Dast80C7x9g0Dast80C7x9g0Dast80C8a840Dafuk0C8a84",
     "0Dafuk0C8a840Dast80C7x9g0Dast80C7x9g0Dast80C8a840Dafuk0C8a840Dafuk0C8a840Dafuk0C8a840Das",
     "t80C7x9g0Dast80C7x9g0Dast80C8a840Dafuk0C8a840Dafuk0C8a840Dast80C7x9g0Dast80C7x9g0Dast80C",
     "6udg0Dc8nw0C6hes0Dc8nw0C6hes0Dc8nw0C6udg0Dc8nw0C6hes0Dc8nw0C6hes0Dc8nw0C6hes0Dc8nw0C6hes",
     "0Dc8nw0C6hes0D1wruk0C"]⟩,
  ⟨"America/Guatemala", [-21724, -21600, -18000], none,
    ["rsv6orgBss0akkC4ofw0B4tidg0C6djw0B3wwas0C8n180B7n5ms0C7x3w0B"]⟩,
  ⟨"America/Guayaquil", [-19160, -18840, -18000, -14400], none,
    ["rduwms8Ble9mf4Cwb620oD3jp80C"]⟩,
  ⟨"America/Guyana", [-13959, -14400, -13500, -10800], none,
    ["rp4ayrrB1va8c9Cvj6nb0D8p0jd0B"]⟩,
  ⟨"America/Halifax", [-15264, -14400, -10800], some ⟨-14400, -10800, ⟨3, 2, 0, 7200⟩, ⟨11, 1, 0, 7200⟩⟩,
    ["rkcsx40B777go0C9et80Bst9o0Ca2vw0Bssyk0C5rbw0Bcv1g0C69uk0Bc6ys0C6kyk0Bci2s0C67zw0Bci2s0C6",
     "w2k0Bbu040C7lzw0Bbu040C66580Bbu040C7lzw0Bbu040C64ak0Bcls40C5v180Bcv1g0C6j3w0Bc6ys0C79180",
     "Bb42s0C7lzw0Bb42s0C7yyk0Bbu040C64ak0Bdbpg0C66580Bcls40C5ed80Bbu040C7lzw0Bb42s0C7lzw0Bcjx",
     "g0C66580Bbh1g0C7lzw0Bb42s0C7lzw0B6uj00C1wd180Basys0C7x3w0Basys0C7x3w0Basys0C7x3w0Basys0C",
     "7x3w0Btw040C7x3w0Basys0C7x3w0Basys0C7x3w0Basys0C7x3w0Btw040C7x3w0Basys0C7x3w0Basys0C7x3w",
     "0Basys0C7x3w0B1cm2s0C9cyk0B9d440C9cyk0B9d440C9cyk0B9d440C9px80B905g0C9px80B9d440C9cyk0B9",
     "d440C9cyk0B9d440C9cyk0B9d440C9cyk0B9d440C9px80B9d440C9cyk0B9d440C9cyk0B9d440C9cyk0B9d440",
     "C9cyk0B9d440C9px80B905g0C9px80B9d440C9cyk0B9d440C9cyk0B9d440C9cyk0B9d440C9cyk0B9d440C9px",
     "80B905g0C9px80B9d440C9cyk0B9d440C9cyk0B9d440C9cyk0B8a840Cafuk0B8a840Cast80B7x9g0Cast80B7",
     "x9g0Cast80B8a840Cafuk0B8a840Cafuk0B8a840Cast80B7x9g0Cast80B7x9g0Cast80B8a840Cafuk0B8a840",
     "Cafuk0B8a840Cafuk0B8a840Cast80B7x9g0Cast80B7x9g0Cast80B8a840Cafuk0B8a840Cafuk0B8a840Cast",
     "80B7x9g0Cast80B7x9g0Cast80B6udg0C"]⟩,
  ⟨"America/Havana", [-19768, -19776, -18000, -14400], some ⟨-18000, -14400, ⟨3, 2, 0, 0⟩, ⟨11, 1, 0, 3600⟩⟩,
    ["rduwn94Bijto08C1icfyoD69uk0C62s040D4ofw0Ce1ms0D51ek0Ce1ms0D4ofw0C1fhs40D4ofw0Ce1ms0D4ofw",
     "0C9s9k40D67zw0Ccedg0D6h980C9o840D7yyk0Cb5xg0D7k580Cbvus0D9cyk0C9d440D9cyk0C9d440D9px80C9",
     "d440D8a2k0Cag040D8bx80Cae5g0D8drw0Cacas0D9cyk0C9d440D9px80C905g0D9px80C9q2s0D7x3w0C8a840",
     "Dast80C7x9g0Dast80Casys0D7x3w0Casys0D7x3w0Casys0D7x3w0Casys0D8a2k0Cag040D8a2k0C7x9g0Dast",
     "80C7x9g0Dast80C8a840Dafuk0C8a840Dafuk0C905g0Da2vw0C905g0D9q000C902o0D9q000C902o0D9q000C9",
     "02o0D9q000C902o0D9q000C9d1c0D9d1c0C9d1c0D9q000C8n400Dasw00C7x6o0Db5uo0C7x6o0Dasw00C7x6o0",
     "Dasw00C8a5c0Dafxc0C8a5c0Dafxc0C7x6o0D1cm000C6uao0Dbvs00C779c0Dbitc0C6uao0Dbvs00C779c0Dbv",
     "s00C779c0Dc8qo0C779c0D"]⟩,
  ⟨"America/Hermosillo", [-26632, -25200, -21600], none,
    ["ruk3cs0B2u5s00C1si580B8jhg0C7x3w0B9eys0C591h80Bs5qoc0Cafuk0B8a840Cafuk0B8a840Cafuk0B"]⟩,
  ⟨"America/Indiana/Indianapolis", [-20678, -21600, -18000, -14400], some ⟨-18000, -14400, ⟨3, 2, 0, 7200⟩, ⟨11, 1, 0, 7200⟩⟩,
    ["ranwvc0Bhxltk0Cast80B7x9g0Cast80Bbaw840C51ek0B6w840C1wd180Basys0C7x3w0Basys0C7x3w0Basys0",
     "C7x3w0Basys0C7x3w0Bb5xg0C7k580Bb5xg0C7x3w0Basys0C7x3w0Basys0C7x3w0Basys0C7x3w0Basys0C19q",
     "7w0Basys0C5qonw0D9cyk0C9d440D9cyk0Cihslg0Dast80C6udg0D"]⟩,
  ⟨"America/Indiana/Knox", [-20790, -21600, -18000], some ⟨-21600, -18000, ⟨3, 2, 0, 7200⟩, ⟨11, 1, 0, 7200⟩⟩,
    ["ranwvc0Bhxltk0Cast80B7x9g0Cast80Bbmtus0C1wd180Btj1g0C7x3w0Basys0C7x3w0Basys0C7x3w0Bb5xg0",
     "C7k580Bb5xg0C7x3w0Basys0C7x3w0Basys0C7x3w0Basys0C7x3w0Basys0C9px80B9d440C9cyk0B9d440C7x3",
     "w0Basys0C7x3w0Basys0C9cyk0B9d440C9px80B9d440C9cyk0B9d440Cs3180B1twas0C9cyk0B9d440C9cyk0B",
     "9d440C9cyk0B9d440C9cyk0B9d440C9px80B9d440C9cyk0B9d440C9cyk0B3lpg0Cf4d80B64g40Cclmk0B9d44",
     "0C9px80B905g0C9px80B9d440C9cyk0B9d440C9cyk0B9d440C9cyk0B9d440C9cyk0B9d440C9px80B905g0C9p",
     "x80B9d440C9cyk0B9d440C9cyk0B9d440C9cyk0B8a840Cafuk0B8a840Cast80B7x9g0Cast80B7x9g0Cast80B",
     "8a840C84duk0B6udg0C"]⟩,
  ⟨"America/Indiana/Marengo", [-20723, -21600, -18000, -14400], some ⟨-18000, -14400, ⟨3, 2, 0, 7200⟩, ⟨11, 1, 0, 7200⟩⟩,
    ["ranwvc0Bhxltk0Cast80B7x9g0Cast80Bbmtus0C1wd180B2wsas0C7x3w0B1c9440C7x3w0Basys0C7x3w0Bb5x",
     "g0C7x3w0Basys0C7x3w0Basys0C7x3w0Basys0C7x3w0Basys0C7x3w0Bb5xg0C465h80D9cyk0C9d440D9cyk0C",
     "9d440D9px80C9d440D9cyk0C9d440D9cyk0Couis0Dclmk0Cfvt9g0Dast80C6udg0D"]⟩,
  ⟨"America/Indiana/Petersburg", [-20947, -21600, -18000, -14400], some ⟨-18000, -14400, ⟨3, 2, 0, 7200⟩, ⟨11, 1, 0, 7200⟩⟩,
    ["ranwvc0Bhxltk0Cast80B7x9g0Cast80Bbmtus0C1wd180B501ek0C7kas0Bb5xg0C7x3w0Basys0C7x3w0Basys",
     "0C7x3w0Basys0C7x3w0Basys0C7x3w0Bb5xg0C9cyk0B9d440C9cyk0B9d440C9cyk0B9d440C9cyk0B9d440Csf",
     "zw0B9d440C9cyk0B9d440C9cyk0B9d440C9cyk0B9d440C9cyk0B9d440C9px80B9d440C9cyk0B9d440C9cyk0B",
     "3lpg0Cf4d80B64g40Cclmk0B9d440C9px80B905g0Cfeivw0B6udg0Cipzw0D"]⟩,
  ⟨"America/Indiana/Tell_City", [-20823, -21600, -18000, -14400], some ⟨-21600, -18000, ⟨3, 2, 0, 7200⟩, ⟨11, 1, 0, 7200⟩⟩,
    ["ranwvc0Bhxltk0Cast80B7x9g0Cast80Bbmtus0C1wd180B501ek0C7kas0Bb5xg0C7x3w0Basys0C7x3w0Basys",
     "0C7x3w0Basys0C7x3w0Basys0C7x3w0Bb5xg0C9cyk0B9d440C9cyk0B9d440C9cyk0B9d440C1tw580B9d440C9",
     "cyk0B9d440D9cvs0C9d440D9cyk0Cislhg0B6udg0C"]⟩,
  ⟨"America/Indiana/Vevay", [-20416, -21600, -18000, -14400], some ⟨-18000, -14400, ⟨3, 2, 0, 7200⟩, ⟨11, 1, 0, 7200⟩⟩,
    ["ranwvc0Bhxltk0Cast80B7x9g0Cast80Bbmtus0C1wd180B4gyis0C7txx80D9cyk0C9d440D9cyk0C9d440D9px",
     "80C9d440D9cyk0Chfzhg0Dast80C6udg0D"]⟩,
  ⟨"America/Indiana/Vincennes", [-21007, -21600, -18000, -14400], some ⟨-18000, -14400, ⟨3, 2, 0, 7200⟩, ⟨11, 1, 0, 7200⟩⟩,
    ["ranwvc0Bhxltk0Cast80B7x9g0Cast80Bbmtus0C1wd180Basys0C7x3w0B3fidg0C7x3w0Basys0C7x3w0Bb5rw",
     "0C7kas0Bb5xg0C7x3w0Basys0C7x3w0Basys0C7x3w0Basys0C7x3w0Basys0C9px80B9d440C7k580Bb5xg0C9c",
     "yk0B9d440C9cyk0B9d440C2lz980D9cyk0C9d440D9cyk0Cislhg0B6udg0Cipzw0D"]⟩,
  ⟨"America/Indiana/Winamac", [-20785, -21600, -18000, -14400], some ⟨-18000, -14400, ⟨3, 2, 0, 7200⟩, ⟨11, 1, 0, 7200⟩⟩,
    ["ranwvc0Bhxltk0Cast80B7x9g0Cast80Bbmtus0C1wd180Basys0C7x3w0Basys0C7x3w0Basys0C7x3w0Basys0",
     "C7x3w0Bb5xg0C7k580Bb5xg0C7x3w0Basys0C7x3w0Basys0C7x3w0Basys0C7x3w0Basys0C9px80B9d440C9cy",
     "k0B9d440C7x3w0Basys0C7x3w0Basys0C7x3w0Basys0C7x3w0Bb5xg0C465h80D9cyk0C9d440D9cyk0Cislhg0",
     "B6udg0D"]⟩,
  ⟨"America/Inuvik", [0, -28800, -25200, -21600], some ⟨-25200, -21600, ⟨3, 2, 0, 7200⟩, ⟨11, 1, 0, 7200⟩⟩,
    ["saqjc00Ba34zs0C9cyk0B9d440C9cyk0B9d440C9cyk0B9d440C9cyk0B9d440C9px80B905g0C9px80B9d440C9",
     "cyk0B9d440D9cvs0C9d440D9cyk0C9d440D9cyk0C9d440D9px80C905g0D9px80C9d440D9cyk0C9d440D9cyk0",
     "C9d440D9cyk0C8a840Dafuk0C8a840Dast80C7x9g0Dast80C7x9g0Dast80C8a840Dafuk0C8a840Dafuk0C8a8",
     "40Dast80C7x9g0Dast80C7x9g0Dast80C8a840Dafuk0C8a840Dafuk0C8a840Dafuk0C8a840Dast80C7x9g0Da",
     "st80C7x9g0Dast80C8a840Dafuk0C8a840Dafuk0C8a840Dast80C7x9g0Dast80C7x9g0Dast80C6udg0D"]⟩,
  ⟨"America/Iqaluit", [0, -14400, -18000, -21600], some ⟨-18000, -14400, ⟨3, 2, 0, 7200⟩, ⟨11, 1, 0, 7200⟩⟩,
    ["s5ar6o0B1nh7c0Cdvfpg0B9cyk0C9d440B9cyk0C9d440B9cyk0C9d440B9cyk0C9d440B9px80C905g0B9px80C",
     "9d440B9cyk0C9d440B9cyk0C9d440B9cyk0C9d440B9cyk0C9d440B9px80C905g0B9px80C9d440B9cyk0C9d44",
     "0B9cyk0C9d440B9cyk0C8a840Bafuk0C8a840Bast80C7x9g0Bast80C7x9g0Bast80C8a840Bafuk0C8a840Baf",
     "uk0C8a840Bast80C7x9g0Bast80C7x9g0Bast80C8a840Bafuk0C8a840Bafuk0C8a840Bafuk0C8a840Bast80D",
     "7xc80Cipzw0Bast80C8a840Bafuk0C8a840Bafuk0C8a840Bast80C7x9g0Bast80C7x9g0Bast80C6udg0B"]⟩,
  ⟨"America/Jamaica", [-18430, -18000, -14400], none,
    ["rpdrsvyBwbl182Cf4d80B64g40Cclmk0B9d440C9px80B905g0C9px80B9d440C9cyk0B9d440C9cyk0B9d440C9",
     "cyk0B9d440C9cyk0B9d440C9px80B905g0C9px80B"]⟩,
  ⟨"America/Juneau", [54139, -32261, -28800, -25200, -32400], some ⟨-32400, -28800, ⟨3, 2, 0, 7200⟩, ⟨11, 1, 0, 7200⟩⟩,
    ["r29pqs1Bh4yu44Cln707vD1wd180Ccawis0D9cyk0C9d440D9cyk0C9d440D9px80C9d440D9cyk0C9d440D9cyk",
     "0C3lpg0Df4d80C64g40Dclmk0C9d440D9px80C905g0D9px80C9d440D9cyk0C9d440D9cyk0Cs36s0D9cyk0C9d",
     "440D9px80C905g0D9px80E9d6w0C9cyk0E9d440C9cyk0E9d440C9cyk0E8a840Cafuk0E8a840Cast80E7x9g0C",
     "ast80E7x9g0Cast80E8a840Cafuk0E8a840Cafuk0E8a840Cast80E7x9g0Cast80E7x9g0Cast80E8a840Cafuk",
     "0E8a840Cafuk0E8a840Cafuk0E8a840Cast80E7x9g0Cast80E7x9g0Cast80E8a840Cafuk0E8a840Cafuk0E8a",
     "840Cast80E7x9g0Cast80E7x9g0Cast80E6udg0C"]⟩,
  ⟨"America/Kentucky/Louisville", [-20582, -21600, -18000, -14400], some ⟨-18000, -14400, ⟨3, 2, 0, 7200⟩, ⟨11, 1, 0, 7200⟩⟩,
    ["ranwvc0Bhxltk0Cast80B7x9g0Cast80Bsg5g0C6bp80Ba98o40C7x3w0B6w840C1wd180Bast9oC1sw2cB21gis",
     "0C7k580Bb5xg0C7x3w0Basys0C7x3w0Basys0C7x3w0Basys0C7x3w0Basys0C7x3w0Bb5xg0C9cyk0B9d440C9c",
     "yk0B9d440C9cyk0B9d440C9cyk0B9d440C9px80B9d440C3nfek0D9cyk0C9d440D9cyk0C9d440D9cyk0C9d440",
     "D9px80C9d440D9cyk0C9d440D9cyk0Couis0Dclmk0C9d440D9px80C905g0D9px80C9d440D9cyk0C9d440D9cy",
     "k0C9d440D9cyk0C9d440D9cyk0C9d440D9px80C905g0D9px80C9d440D9cyk0C9d440D9cyk0C9d440D9cyk0C8",
     "a840Dafuk0C8a840Dast80C7x9g0Dast80C7x9g0Dast80C8a840Dafuk0C8a840Dafuk0C8a840Dast80C7x9g0",
     "Dast80C7x9g0Dast80C8a840Dafuk0C8a840Dafuk0C8a840Dafuk0C8a840Dast80C7x9g0Dast80C7x9g0Dast",
     "80C8a840Dafuk0C8a840Dafuk0C8a840Dast80C7x9g0Dast80C7x9g0Dast80C6udg0D"]⟩,
  ⟨"America/Kentucky/Monticello", [-20364, -21600, -18000, -14400], some ⟨-18000, -14400, ⟨3, 2, 0, 7200⟩, ⟨11, 1, 0, 7200⟩⟩,
    ["ranwvc0Bhxltk0Cast80B7x9g0Cast80Bbmtus0C1wd180Bbs6g40C9cyk0B9d440C9cyk0B9d440C9cyk0B9d44",
     "0C9px80B9d440C9cyk0B9d440C9cyk0B3lpg0Cf4d80B64g40Cclmk0B9d440C9px80B905g0C9px80B9d440C9c",
     "yk0B9d440C9cyk0B9d440C9cyk0B9d440C9cyk0B9d440C9px80B905g0C9px80B9d440C9cyk0B9d440C9cyk0B",
     "9d440C9cyk0B8a840Cafuk0B8a840Cast80B7x9g0Cast80B7x9g0Cast80B8a840Cafuk0B8a840Cafuk0B8a84",
     "0Cast80B7x9g0Cast80B7x9g0Cast80B8a840Cafuk0B8a840Cafuk0B8a840Cafuk0B8a840Cast80B7x9g0Cip",
     "zw0Dast80C8a840Dafuk0C8a840Dafuk0C8a840Dast80C7x9g0Dast80C7x9g0Dast80C6udg0D"]⟩,
  ⟨"America/La_Paz", [-16356, -12756, -14400], none,
    ["rznxomcB84ik0C"]⟩,
  ⟨"America/Lima", [-18492, -18516, -18000, -14400], none,
    ["rduwm9oB9ov9coCfcxjloD4ml80C93us0D9cyk0C9d440D9cyk0Cnw16s0D4ml80Ce5c40D4ml80C1fr1g0D4ml8",
     "0C1yiys0D4ml80C"]⟩,
  ⟨"America/Los_Angeles", [-28378, -28800, -25200], some ⟨-28800, -25200, ⟨3, 2, 0, 7200⟩, ⟨11, 1, 0, 7200⟩⟩,
    ["ranx0w0Bhxltk0Cast80B7x9g0Cast80Bbmtus0C1wd180B1a3c5oCf2iicBowao0C7k800Bb5uo0C7x6o0Basw0",
     "0C7x6o0Basw00C7x6o0Basw00C7x6o0Basw00C7x6o0Bb5uo0C7x6o0Basw00C7x6o0Basw00C7x6o0Basw00C7x",
     "6o0Basw00C7x6o0Bb5uo0C7k800Bb5uo0C9d1c0B9d1c0C9d1c0B9d1c0C9d1c0B9d1c0C9q000B902o0C9q000B",
     "9d440C9cyk0B9d440C9cyk0B9d440C9cyk0B9d440C9cyk0B9d440C9px80B9d440C9cyk0B9d440C9cyk0B3lpg",
     "0Cf4d80B64g40Cclmk0B9d440C9px80B905g0C9px80B9d440C9cyk0B9d440C9cyk0B9d440C9cyk0B9d440C9c",
     "yk0B9d440C9px80B905g0C9px80B9d440C9cyk0B9d440C9cyk0B9d440C9cyk0B8a840Cafuk0B8a840Cast80B",
     "7x9g0Cast80B7x9g0Cast80B8a840Cafuk0B8a840Cafuk0B8a840Cast80B7x9g0Cast80B7x9g0Cast80B8a84",
     "0Cafuk0B8a840Cafuk0B8a840Cafuk0B8a840Cast80B7x9g0Cast80B7x9g0Cast80B8a840Cafuk0B8a840Caf",
     "uk0B8a840Cast80B7x9g0Cast80B7x9g0Cast80B6udg0C"]⟩,
  ⟨"America/Maceio", [-8572, -10800, -7200], none,
    ["rqdrvy4B99kaxwC9a9c0B9io40C99980B8p65g0C6zuo0Bbs2o0C67zw0Bcjxg0C69uk0Bcjxg0C4ml80B5mf440",
     "C49mk0Bhaas0C316k0Bcls40C4ml80Bcls40C66580Bcls40C67zw0B981s40C6u7w0Bbiw40C5rbw0Bd0lg0C5e",
     "d80Bcyqs0C5ed80Bdbpg0C64ak0B2yl440C64ak0B1wf1g0C7k580Bbiw40Cpuk0Bid6s0C6h980B"]⟩,
  ⟨"America/Managua", [-20708, -20712, -21600, -18000], none,
    ["rduwnz8Bn7jmo4Cka1i0oDxqqk0C24p6s0D53980Cdmtg0D53980C60itw0Ddq240C53es0D235h80C4beis0D8z",
     "zw0Cat4c0D7x140C"]⟩,
  ⟨"America/Manaus", [-14404, -14400, -10800], none,
    ["rqds0g4B99k97wC9a9c0B9io40C99980B8p65g0C6zuo0Bbs2o0C67zw0Bcjxg0C69uk0Bcjxg0C4ml80B5mf440",
     "C49mk0Bhaas0C316k0Bcls40C4ml80Bcls40C66580Bcls40C67zw0B981s40C6u7w0Bbiw40C5rbw0Bd0lg0C5e",
     "d80B2yy2s0C6h980B"]⟩,
  ⟨"America/Martinique", [-14660, -14400, -10800], none,
    ["rozklz8Bzz5x4sC8zzw0B"]⟩,
  ⟨"America/Matamoros", [-23400, -21600, -18000], some ⟨-21600, -18000, ⟨3, 2, 0, 7200⟩, ⟨11, 1, 0, 7200⟩⟩,
    ["ruk3a00Bykt480Cast80B3vppg0Cafuk0B8a840Cafuk0B8a840Cafuk0B8a840Cast80B7x9g0Cast80B9q2s0C",
     "7k580B9q2s0Cafuk0B8a840Cafuk0B8a840Cast80B7x9g0Cast80B7x9g0Cast80B7x9g0Cast80B8a840Cafuk",
     "0B8a840Cafuk0B77c40C"]⟩,
  ⟨"America/Mazatlan", [-25540, -25200, -21600], none,
    ["ruk3cs0B2u5s00C1si580B8jhg0C7x3w0B9eys0C591h80Bs5qoc0Cafuk0B8a840Cafuk0B8a840Cafuk0B8a84",
     "0Cast80B7x9g0Cast80B9q2s0C7k580B9q2s0Cafuk0B8a840Cafuk0B8a840Cast80B7x9g0Cast80B7x9g0Cas",
     "t80B7x9g0Cast80B8a840Cafuk0B8a840Cafuk0B8a840Cast80B7x9g0Cast80B7x9g0Cast80B8a840Cafuk0B",
     "8a840Cafuk0B8a840Cafuk0B8a840Cast80B7x9g0Cast80B7x9g0Cast80B8a840Cafuk0B8a840Cafuk0B8a84",
     "0Cast80B7x9g0Cast80B"]⟩,
  ⟨"America/Menominee", [-21027, -21600, -18000], some ⟨-21600, -18000, ⟨3, 2, 0, 7200⟩, ⟨11, 1, 0, 7200⟩⟩,
    ["rbmdlk3Bgz53bxCast80B7x9g0Cast80Bbmtus0C1wd180Basys0C7x3w0Ba7n9g0C9px80B1at9g0C2cm7w0B3l",
     "pg0Cf4d80B64g40Cclmk0B9d440C9px80B905g0C9px80B9d440C9cyk0B9d440C9cyk0B9d440C9cyk0B9d440C",
     "9cyk0B9d440C9px80B905g0C9px80B9d440C9cyk0B9d440C9cyk0B9d440C9cyk0B8a840Cafuk0B8a840Cast8",
     "0B7x9g0Cast80B7x9g0Cast80B8a840Cafuk0B8a840Cafuk0B8a840Cast80B7x9g0Cast80B7x9g0Cast80B8a",
     "840Cafuk0B8a840Cafuk0B8a840Cafuk0B8a840Cast80B7x9g0Cast80B7x9g0Cast80B8a840Cafuk0B8a840C",
     "afuk0B8a840Cast80B7x9g0Cast80B7x9g0Cast80B6udg0C"]⟩,
  ⟨"America/Merida", [-21508, -21600, -18000], none,
    ["ruk3a00Bvb0dk0Cfzuk0B70bes0Cafuk0B8a840Cafuk0B8a840Cafuk0B8a840Cast80B7x9g0Cast80B9q2s0C",
     "7k580B9q2s0Cafuk0B8a840Cafuk0B8a840Cast80B7x9g0Cast80B7x9g0Cast80B7x9g0Cast80B8a840Cafuk",
     "0B8a840Cafuk0B8a840Cast80B7x9g0Cast80B7x9g0Cast80B8a840Cafuk0B8a840Cafuk0B8a840Cafuk0B8a",
     "840Cast80B7x9g0Cast80B7x9g0Cast80B8a840Cafuk0B8a840Cafuk0B8a840Cast80B7x9g0Cast80B"]⟩,
  ⟨"America/Metlakatla", [54822, -31578, -28800, -25200, -32400], some ⟨-32400, -28800, ⟨3, 2, 0, 7200⟩, ⟨11, 1, 0, 7200⟩⟩,
    ["r29pqs1Bh4ytl5Cln70quD1wd180Ccawis0D9cyk0C9d440D9cyk0C9d440D9px80C9d440D9cyk0C9d440D9cyk",
     "0C3lpg0Df4d80C64g40Dclmk0C9d440D9px80C905g0D9px80C9d440D9cyk0C9d440D9cyk0C9d440D9cyk0C9d",
     "440D9cyk0C9d440D9px80C905g0D9px80Cgpc840E6udg0Cc8nw0E6hes0Cc8nw0E6hes0Cg7980E"]⟩,
  ⟨"America/Mexico_City", [-23796, -25200, -21600, -18000], none,
    ["ruk3cs0B2u5s00C1si580B8jhg0C7x3w0B9eys0C3knek0D776k0Crf440D5t6k0C1evk40D71mk0C30p1g0D8n1",
     "80Cnufxo0Dafuk0C8a840Dafuk0C8a840Dafuk0C8a840Dast80C7x9g0Dast80C9q2s0D7k580C9q2s0Dafuk0C",
     "8a840Dafuk0C8a840Dast80C7x9g0Dast80C7x9g0Dast80C7x9g0Dast80C8a840Dafuk0C8a840Dafuk0C8a84",
     "0Dast80C7x9g0Dast80C7x9g0Dast80C8a840Dafuk0C8a840Dafuk0C8a840Dafuk0C8a840Dast80C7x9g0Das",
     "t80C7x9g0Dast80C8a840Dafuk0C8a840Dafuk0C8a840Dast80C7x9g0Dast80C"]⟩,
  ⟨"America/Miquelon", [-13480, -14400, -10800, -7200], some ⟨-10800, -7200, ⟨3, 2, 0, 7200⟩, ⟨11, 1, 0, 7200⟩⟩,
    ["rp1vx2gBzy4wpkC3m59g0Dafuk0C8a840Dast80C7x9g0Dast80C7x9g0Dast80C8a840Dafuk0C8a840Dafuk0C",
     "8a840Dast80C7x9g0Dast80C7x9g0Dast80C8a840Dafuk0C8a840Dafuk0C8a840Dafuk0C8a840Dast80C7x9g",
     "0Dast80C7x9g0Dast80C8a840Dafuk0C8a840Dafuk0C8a840Dast80C7x9g0Dast80C7x9g0Dast80C6udg0D"]⟩,
  ⟨"America/Moncton", [-15548, -18000, -14400, -10800], some ⟨-14400, -10800, ⟨3, 2, 0, 7200⟩, ⟨11, 1, 0, 7200⟩⟩,
    ["raoypbwB9nu9w4C89fhg0Da2vw0C7mqqo0D4ofw0Ce1ms0D4ofw0Ce1ms0D4ofw0Ce1ms0D4ofw0Ce1ms0D4ofw0",
     "Ce1ms0D4ofw0Cdmtg0D64ak0Ccao40D6fek0Cbkqs0D7iak0C6y5k0D1wd180Casys0D7x3w0Casys0D7x3w0Cas",
     "ys0D7x3w0Casys0D7x3w0Cb5xg0D7k580Cb5xg0D7x3w0Casys0D7x3w0Casys0D7x3w0Casys0D7x3w0Casys0D",
     "7x3w0Cb5xg0D7x3w0Casys0D9cyk0C9d440D9cyk0C9d440D9cyk0C9d440D9px80C9d440D9cyk0C9d440D9cyk",
     "0C9d440D9cyk0C9d440D9cyk0C9d440D9px80C905g0D9px80C9d440D9cyk0C9d440D9cyk0C9d440D9cyk0C9d",
     "440D9cyk0C9d440D9px80C9d440D9cyk0Cs36s0D9cyk0C9d440D9cyk0C9d440D9px80C905g0D9px80C9d440D",
     "9cyk0C9d440D9cyk0C9d440D9cyk0C9d440D9cyk0C9d440D9px80C905g0D9px80C9d440D9cyk0C9d440D9cyk",
     "0C9d440D9cyk0C8a840Dafuk0C8a840Dast80C7x9g0Dast80C7x9g0Dast80C8a840Dafuk0C8a840Dafuk0C8a",
     "2loDast80C7x9g0Dast80C7x9g0Dast80C8a840Dafuk0C8a840Dafuk0C8a840Dafuk0C8a840Dast80C7x9g0D",
     "ast80C7x9g0Dast80C8a840Dafuk0C8a840Dafuk0C8a840Dast80C7x9g0Dast80C7x9g0Dast80C6uiycD"]⟩,
  ⟨"America/Monterrey", [-24076, -25200, -21600, -18000], none,
    ["ruk3a00B2u5us0C1si580B8jhg0C7x3w0B9eys0Ct89k40Dast80C3vppg0Dafuk0C8a840Dafuk0C8a840Dafuk",
     "0C8a840Dast80C7x9g0Dast80C9q2s0D7k580C9q2s0Dafuk0C8a840Dafuk0C8a840Dast80C7x9g0Dast80C7x",
     "9g0Dast80C7x9g0Dast80C8a840Dafuk0C8a840Dafuk0C8a840Dast80C7x9g0Dast80C7x9g0Dast80C8a840D",
     "afuk0C8a840Dafuk0C8a840Dafuk0C8a840Dast80C7x9g0Dast80C7x9g0Dast80C8a840Dafuk0C8a840Dafuk",
     "0C8a840Dast80C7x9g0Dast80C"]⟩,
  ⟨"America/Montevideo", [-13491, -14400, -10800, -12600, -9000, -7200, -5400], none,
    ["rtoph2rB1s74p9C9et80D9exe0C9czy0D9exe0C9czy0D3ydyq0C7x5a0Dasxe0C7x5a0Dasxe0C7x5a0Dasxe0C",
     "7x5a0Db5w20C7k6m0Db5w20C7k6m0D9q1e0C9czy0Dasxe0C7x5a0D6do20Cppvy0E4mmm0C8g9qq0E901a0C38p",
     "e0F2inw0C2nf9g0F8zzw0C1e3s40E9o3y0Cq8he0F2kik0Cyxhg0F4bh80Cs36s0G2vl60E905g0C5rg20F51ek0",
     "Cweqs0F3yik0Ce1ms0F4ofw0Cerk40F3yik0C2vs40Fgk7w0C41iys0F3wnw0Cerk40F4bh80Cc8tg0F64ak0Cc8",
     "tg0F6u7w0Cc8tg0F6h980Cbvus0F6u7w0C614qs0F9q2s0Ca31g0F7x3w0Cag040F8a2k0Casys0F7x3w0Casys0",
     "F7x3w0Casys0F8a2k0Cag040F8a2k0Cag040F8a2k0Casys0F7x3w0Casys0F7x3w0Casys0F7x3w0C"]⟩,
  ⟨"America/New_York", [-17762, -18000, -14400], some ⟨-18000, -14400, ⟨3, 2, 0, 7200⟩, ⟨11, 1, 0, 7200⟩⟩,
    ["ranwsk0Bhxltk0Cast80B7x9g0Cast80B7x9g0Cb5rw0B905g0C7x3w0Bb5xg0C7k580Bb5xg0C7x3w0Basys0C7",
     "x3w0Basys0C7x3w0Basys0C7x3w0Basys0C7x3w0Bb5xg0C7x3w0Basys0C7x3w0Basys0C7x3w0Basys0C7x3w0",
     "Basys0C7x3w0Bb5xg0C7k580Bb5xg0C7x3w0Basys0C7x3w0Basys0C7x3w0Basys0C7x3w0Basys0C7x3w0Bb5x",
     "g0C7k580Bb5xg0C7x3w0Basys0C7x3w0B6w840C1wd180Basys0C7x3w0Basys0C7x3w0Basys0C7x3w0Basys0C",
     "7x3w0Bb5xg0C7k580Bb5xg0C7x3w0Basys0C7x3w0Basys0C7x3w0Basys0C7x3w0Basys0C9px80B9d440C9cyk",
     "0B9d440C9cyk0B9d440C9cyk0B9d440C9cyk0B9d440C9px80B9d440C9cyk0B9d440C9cyk0B9d440C9cyk0B9d",
     "440C9cyk0B9d440C9px80B905g0C9px80B9d440C9cyk0B9d440C9cyk0B9d440C9cyk0B9d440C9cyk0B9d440C",
     "9px80B9d440C9cyk0B9d440C9cyk0B3lpg0Cf4d80B64g40Cclmk0B9d440C9px80B905g0C9px80B9d440C9cyk",
     "0B9d440C9cyk0B9d440C9cyk0B9d440C9cyk0B9d440C9px80B905g0C9px80B9d440C9cyk0B9d440C9cyk0B9d",
     "440C9cyk0B8a840Cafuk0B8a840Cast80B7x9g0Cast80B7x9g0Cast80B8a840Cafuk0B8a840Cafuk0B8a840C",
     "ast80B7x9g0Cast80B7x9g0Cast80B8a840Cafuk0B8a840Cafuk0B8a840Cafuk0B8a840Cast80B7x9g0Cast8",
     "0B7x9g0Cast80B8a840Cafuk0B8a840Cafuk0B8a840Cast80B7x9g0Cast80B7x9g0Cast80B6udg0C"]⟩,
  ⟨"America/Nome", [46702, -39698, -39600, -36000, -32400, -28800], some ⟨-32400, -28800, ⟨3, 2, 0, 7200⟩, ⟨11, 1, 0, 7200⟩⟩,
    ["r29pqs1Bh4yzupCln72taD1wd180Ccawis0D9cyk0C9d440D9cyk0C9d440D9px80C9d440D9cyk0C9d440D9cyk",
     "0C3lpg0Df4d80C64g40Dclmk0C9d440D9px80C905g0D9px80C9d440D9cyk0C9d440D9cyk0C9d440D9cyk0C9d",
     "440D9cyk0C9d440D9px80C905g0D9px80E9cyk0F9cyk0E9d440F9cyk0E9d440F9cyk0E8a840Fafuk0E8a840F",
     "ast80E7x9g0Fast80E7x9g0Fast80E8a840Fafuk0E8a840Fafuk0E8a840Fast80E7x9g0Fast80E7x9g0Fast8",
     "0E8a840Fafuk0E8a840Fafuk0E8a840Fafuk0E8a840Fast80E7x9g0Fast80E7x9g0Fast80E8a840Fafuk0E8a",
     "840Fafuk0E8a840Fast80E7x9g0Fast80E7x9g0Fast80E6udg0F"]⟩,
  ⟨"America/Noronha", [-7780, -7200, -3600], none,
    ["rqdrvc4B99k8rwC9a9c0B9io40C99980B8p65g0C6zuo0Bbs2o0C67zw0Bcjxg0C69uk0Bcjxg0C4ml80B5mf440",
     "C49mk0Bhaas0C316k0Bcls40C4ml80Bcls40C66580Bcls40C67zw0B981s40C6u7w0Bbiw40C5rbw0Bd0lg0C5e",
     "d80Bcyqs0C5ed80Bdbpg0C64ak0B514g40C7k580Bbiw40Ccvw0Biq5g0C6h980B"]⟩,
  ⟨"America/North_Dakota/Beulah", [-24427, -25200, -21600, -18000], some ⟨-21600, -18000, ⟨3, 2, 0, 7200⟩, ⟨11, 1, 0, 7200⟩⟩,
    ["ranwy40Bhxltk0Cast80B7x9g0Cast80Bbmtus0C1wd180Bb9gdg0C9cyk0B9d440C9cyk0B9d440C9cyk0B9d44",
     "0C9cyk0B9d440C9px80B9d440C9cyk0B9d440C9cyk0B3lpg0Cf4d80B64g40Cclmk0B9d440C9px80B905g0C9p",
     "x80B9d440C9cyk0B9d440C9cyk0B9d440C9cyk0B9d440C9cyk0B9d440C9px80B905g0C9px80B9d440C9cyk0B",
     "9d440C9cyk0B9d440C9cyk0B8a840Cafuk0B8a840Cast80B7x9g0Cast80B7x9g0Cast80B8a840Cafuk0B8a84",
     "0Cafuk0B8a840Cast80B7x9g0Cast80B7x9g0Cast80B8a840Cafuk0B8a840Cafuk0B8a840Cafuk0B8a840Cas",
     "t80B7x9g0Cast80B7x9g0Cast80B8a840Cafuk0B8a840Cafuk0B8a840Cast80B7x9g0Cast80B7x9g0Cast80B",
     "6udg0Cc8nw0B6hes0Cc8nw0B6hes0Cc8nw0B6udg0Cipzw0D"]⟩,
  ⟨"America/North_Dakota/Center", [-24312, -25200, -21600, -18000], some ⟨-21600, -18000, ⟨3, 2, 0, 7200⟩, ⟨11, 1, 0, 7200⟩⟩,
    ["ranwy40Bhxltk0Cast80B7x9g0Cast80Bbmtus0C1wd180Bb9gdg0C9cyk0B9d440C9cyk0B9d440C9cyk0B9d44",
     "0C9cyk0B9d440C9px80B9d440C9cyk0B9d440C9cyk0B3lpg0Cf4d80B64g40Cclmk0B9d440C9px80B905g0C9p",
     "x80B9d440C9cyk0B9d440C9cyk0B9d440C9cyk0B9d440C9cyk0B9d440C9px80B905g0C9px80B9d440C9cyk0B",
     "9d440C9cyk0B9d440C9cyk0B8a840Cafuk0B8a840Cast80B7x9g0Cast80B7x9g0Cast80B8a840Cafuk0B8a84",
     "0Cipzw0Dast80C7x9g0Dast80C7x9g0Dast80C8a840Dafuk0C8a840Dafuk0C8a840Dafuk0C8a840Dast80C7x",
     "9g0Dast80C7x9g0Dast80C8a840Dafuk0C8a840Dafuk0C8a840Dast80C7x9g0Dast80C7x9g0Dast80C6udg0D"]⟩,
  ⟨"America/North_Dakota/New_Salem", [-24339, -25200, -21600, -18000], some ⟨-21600, -18000, ⟨3, 2, 0, 7200⟩, ⟨11, 1, 0, 7200⟩⟩,
    ["ranwy40Bhxltk0Cast80B7x9g0Cast80Bbmtus0C1wd180Bb9gdg0C9cyk0B9d440C9cyk0B9d440C9cyk0B9d44",
     "0C9cyk0B9d440C9px80B9d440C9cyk0B9d440C9cyk0B3lpg0Cf4d80B64g40Cclmk0B9d440C9px80B905g0C9p",
     "x80B9d440C9cyk0B9d440C9cyk0B9d440C9cyk0B9d440C9cyk0B9d440C9px80B905g0C9px80B9d440C9cyk0B",
     "9d440C9cyk0B9d440C9cyk0B8a840Cafuk0B8a840Cast80B7x9g0Cast80B7x9g0Cast80B8a840Cafuk0B8a84",
     "0Cafuk0B8a840Cast80B7x9g0Cast80B7x9g0Cast80B8a840Cafuk0B8a840Cafuk0B8a840Cafuk0B8a840Cas",
     "t80B7x9g0Cast80B7x9g0Cast80B8a840Cafuk0B8a840Cipzw0Dast80C7x9g0Dast80C7x9g0Dast80C6udg0D"]⟩,
  ⟨"America/Nuuk", [-12416, -10800, -7200, -3600], some ⟨-7200, -3600, ⟨3, 5, 0, -3600⟩, ⟨10, 5, 0, 0⟩⟩,
    ["rrq2uwwBx8nqz4C8zrk0B9d1c0C9d1c0B9d1c0C9d1c0B9d1c0C9d1c0B9d1c0C9q000B9d1c0C9d1c0B9d1c0C9",
     "d1c0B9d1c0C9d1c0B9d1c0C9d1c0B9d1c0C9d1c0B9d1c0C9q000B9d1c0C9d1c0B9d1c0C9d1c0B9d1c0C9d1c0",
     "B9d1c0C9d1c0B9d1c0C9d1c0B9q000Casw00B7x6o0Casw00B7x6o0Casw00B7x6o0Cb5uo0B7k800Cb5uo0B7k8",
     "00Cb5uo0B7x6o0Casw00B7x6o0Casw00B7x6o0Cb5uo0B7k800Cb5uo0B7k800Cb5uo0B7k800Cb5uo0B7x6o0Ca",
     "sw00B7x6o0Casw00B7x6o0Cb5uo0B7k800Cb5uo0B7k800Cb5uo0B7x6o0Casw00B7x6o0Casw00B7x6o0Casw00",
     "B7x6o0Cb5uo0B7k800Cb5uo0B7k800Cb5uo0B7x6o0Casw00B7x6o0Casw00B7x6o0Cb5uo0B7k800Cb5uo0B7k8",
     "00Cj31c0D"]⟩,
  ⟨"America/Ojinaga", [-25060, -25200, -21600, -18000], some ⟨-21600, -18000, ⟨3, 2, 0, 7200⟩, ⟨11, 1, 0, 7200⟩⟩,
    ["ruk3cs0B2u5s00C1si580B8jhg0C7x3w0B9eys0Cxes2s0Dafuk0C8a840Dafuk0Ciq5g0B8a840Cast80B7x9g0",
     "Cast80B9q2s0C7k580B9q2s0Cafuk0B8a840Cafuk0B8a840Cast80B7x9g0Cast80B7x9g0Cast80B7x9g0Cast",
     "80B8a840Cafuk0B8a840Cafuk0B77c40Cc8nw0B6hes0Cc8nw0B6hes0Cc8nw0B6hes0Cc8nw0B6hes0Cc8nw0B6",
     "hes0Cc8nw0B6udg0Cc8nw0B6hes0Cc8nw0B6hes0Cc8nw0B6hes0Cc8nw0B6hes0Cc8nw0B6udg0Cc8nw0B6hes0",
     "Cipzw0D"]⟩,
  ⟨"America/Panama", [-19088, -19176, -18000], none,
    ["rduwmq8B9jvmqgC"]⟩,
  ⟨"America/Paramaribo", [-13240, -13252, -13236, -12600, -10800], none,
    ["rotecvsBcixc0cC5lydbkDkcrm6cE"]⟩,
  ⟨"America/Phoenix", [-26898, -25200, -21600], none,
    ["ranwy40Bhxltk0Cast80B7x9g0Cast80Bbmtus0CzjedoB4olg0C9et80Bbs6lmcC9cyk0B"]⟩,
  ⟨"America/Port-au-Prince", [-17360, -17340, -18000, -14400], some ⟨-18000, -14400, ⟨3, 2, 0, 7200⟩, ⟨11, 1, 0, 7200⟩⟩,
    ["rduwle8Be4gmngCylcf6cD8zzw0C9d440D9cyk0C9d440D9cyk0C9d440D9cyk0C9d440D9cyk0C8aaw0Dasw00C",
     "7x6o0Dasw00C7x6o0Dasw00C8a5c0Dafxc0C8a5c0Dafxc0C8a5c0Dasw00C7x6o0Dasw00C7x6o0Dasw00C8a5c",
     "0Dafxc0C8a5c0Dafxc0C3vpjw0Dast80C7x9g0Dast80C2stv00Dc8nw0C6hes0Dc8nw0C6hes0Dc8nw0C6hes0D",
     "c8nw0Cpkg40D"]⟩,
  ⟨"America/Porto_Velho", [-15336, -14400, -10800], none,
    ["rqds160B99k8i0C9a9c0B9io40C99980B8p65g0C6zuo0Bbs2o0C67zw0Bcjxg0C69uk0Bcjxg0C4ml80B5mf440",
     "C49mk0Bhaas0C316k0Bcls40C4ml80Bcls40C66580Bcls40C67zw0B981s40C6u7w0Bbiw40C5rbw0Bd0lg0C5e",
     "d80B"]⟩,
  ⟨"America/Puerto_Rico", [-15865, -14400, -10800], none,
    ["riofs8pBmhp1jbC1s3hg0B"]⟩,
  ⟨"America/Punta_Arenas", [-17020, -16965, -18000, -14400, -10800], none,
    ["rduwl4sBag6lahC3dlssrB157b79Df4e0rB49hzb9Daye0rC7ves0Dawik0C7ves0Dawik0C7ves0Dawik0C7ves",
     "0Dayd80C7ves0D534ik0C351g0D2fnh80C2mg00Db73400E7k580Dc8tg0E6h980Da31g0E7x3w0Dasys0E7x3w0",
     "Db5xg0E7k580Dag040E8a2k0Db5xg0E7k580Db5xg0E7x3w0Dasys0E7x3w0Dasys0E7x3w0Db5xg0E7k580Db5x",
     "g0E7k580Db5xg0E7x3w0Dasys0E7x3w0Dasys0E7x3w0Dasys0E7x3w0Db5xg0E7k580Db5xg0E7k580Db5xg0E9",
     "cyk0D9d440E7x3w0Dasys0E7x3w0Db5xg0E7k580D9q2s0E8zzw0Db5xg0E7x3w0Dasys0E7x3w0Dasys0E7x3w0",
     "Dasys0E7x3w0Db5xg0E7k580Db5xg0E8n180Da31g0E7x3w0Da31g0E9px80D9q2s0E7x3w0Db5xg0E7k580Db5x",
     "g0E7k580Db5xg0E7k580Db5xg0E7x3w0Dasys0E7x3w0Dasys0E7x3w0Db5xg0E7k580Db5xg0E8n180Da31g0E7",
     "x3w0Dasys0E8zzw0D9q2s0East80D5eis0Ecyl80D6hes0Ec8nw0D6udg0Ebvp80D6udg0Evonw0D4olg0E"]⟩,
  ⟨"America/Rankin_Inlet", [0, -21600, -18000], some ⟨-21600, -18000, ⟨3, 2, 0, 7200⟩, ⟨11, 1, 0, 7200⟩⟩,
    ["sctow00B7zza80C9cyk0B9d440C9cyk0B9d440C9cyk0B9d440C9cyk0B9d440C9px80B905g0C9px80B9d440C9",
     "cyk0B9d440C9cyk0B9d440C9cyk0B9d440C9cyk0B9d440C9px80B905g0C9px80B9d440C9cyk0B9d440C9cyk0",
     "B9d440C9cyk0B8a840Cafuk0B8a840Cast80B7x9g0Cast80B7x9g0Cast80B8a840Cafuk0B8a840Cafuk0B8a8",
     "40Cast80B7x9g0Cast80B7x9g0Cast80B8a840Cafuk0B8a840Cafuk0B8a840Cafuk0B8a840Cast80B7x9g0Ct",
     "ivw0B8a840Cafuk0B8a840Cafuk0B8a840Cast80B7x9g0Cast80B7x9g0Cast80B6udg0C"]⟩,
  ⟨"America/Recife", [-8376, -10800, -7200], none,
    ["rqdrvsoB99kb3cC9a9c0B9io40C99980B8p65g0C6zuo0Bbs2o0C67zw0Bcjxg0C69uk0Bcjxg0C4ml80B5mf440",
     "C49mk0Bhaas0C316k0Bcls40C4ml80Bcls40C66580Bcls40C67zw0B981s40C6u7w0Bbiw40C5rbw0Bd0lg0C5e",
     "d80Bcyqs0C5ed80Bdbpg0C64ak0B514g40C7k580Bbiw40Ccvw0Biq5g0C6h980B"]⟩,
  ⟨"America/Regina", [-25116, -25200, -21600], none,
    ["rm177doB6l1hmcCa2vw0B60enw0C7x3w0Basys0C7x3w0Basys0C7x3w0Bb5xg0C7k580Bb5xg0C7x3w0B1b6840",
     "C9cyk0B9d440C8zzw0B9q2s0C9cyk0B9q2s0C9cyk0B9d440C9cyk0B66gc0C1wd180Ba31g0C9cyk0Ba31g0C7x",
     "3w0Basys0C7x3w0Basys0C7x3w0Bb5xg0C7k580Bb5xg0C7x3w0Basys0C7x3w0Basys0C7x3w0Basys0C7x3w0B",
     "asys0C7x3w0Bb5xg0C7x3w0Basys0C7x3w0Btj1g0C9cyk0B9d440C"]⟩,
  ⟨"America/Resolute", [0, -21600, -18000], some ⟨-21600, -18000, ⟨3, 2, 0, 7200⟩, ⟨11, 1, 0, 7200⟩⟩,
    ["s7y8800Bcvfy80C9cyk0B9d440C9cyk0B9d440C9cyk0B9d440C9cyk0B9d440C9px80B905g0C9px80B9d440C9",
     "cyk0B9d440C9cyk0B9d440C9cyk0B9d440C9cyk0B9d440C9px80B905g0C9px80B9d440C9cyk0B9d440C9cyk0",
     "B9d440C9cyk0B8a840Cafuk0B8a840Cast80B7x9g0Cast80B7x9g0Cast80B8a840Cafuk0B8a840Cafuk0B8a8",
     "40Cast80B7x9g0Cast80B7x9g0Cast80B8a840Cafuk0B8a840Cafuk0B8a840Cafuk0B8a840Cast80B7x9g0Ct",
     "ivw0B8a840Cafuk0B8a840Cafuk0B8a840Cast80B7x9g0Cast80B7x9g0Ctvuk0B"]⟩,
  ⟨"America/Rio_Branco", [-16272, -18000, -14400], none,
    ["rqds1w0B99kak0C9a9c0B9io40C99980B8p65g0C6zuo0Bbs2o0C67zw0Bcjxg0C69uk0Bcjxg0C4ml80B5mf440",
     "C49mk0Bhaas0C316k0Bcls40C4ml80Bcls40C66580Bcls40C67zw0B981s40C6u7w0Bbiw40C5rbw0Bd0lg0C5e",
     "d80Bamves0C2t2t80B"]⟩,
  ⟨"America/Santarem", [-13128, -14400, -10800], none,
    ["rqdrzgoB99ka7cC9a9c0B9io40C99980B8p65g0C6zuo0Bbs2o0C67zw0Bcjxg0C69uk0Bcjxg0C4ml80B5mf440",
     "C49mk0Bhaas0C316k0Bcls40C4ml80Bcls40C66580Bcls40C67zw0B981s40C6u7w0Bbiw40C5rbw0Bd0lg0C5e",
     "d80Bamves0C"]⟩,
  ⟨"America/Santiago", [-16965, -18000, -14400, -10800], some ⟨-14400, -10800, ⟨9, 1, 6, 86400⟩, ⟨4, 1, 6, 86400⟩⟩,
    ["rob36f9B3dlssrA157b79Cf4e0rA49hzb9Caye0rB7ves0Cawik0B7ves0Cawik0B7ves0Cawik0B7ves0Cayd80",
     "B7ves0C534ik0B351g0C229zw0D2b980Cb2840B2mg00Cb73400D7k580Cc8tg0D6h980Ca31g0D7x3w0Casys0D",
     "7x3w0Cb5xg0D7k580Cag040D8a2k0Cb5xg0D7k580Cb5xg0D7x3w0Casys0D7x3w0Casys0D7x3w0Cb5xg0D7k58",
     "0Cb5xg0D7k580Cb5xg0D7x3w0Casys0D7x3w0Casys0D7x3w0Casys0D7x3w0Cb5xg0D7k580Cb5xg0D7k580Cb5",
     "xg0D9cyk0C9d440D7x3w0Casys0D7x3w0Cb5xg0D7k580C9q2s0D8zzw0Cb5xg0D7x3w0Casys0D7x3w0Casys0D",
     "7x3w0Casys0D7x3w0Cb5xg0D7k580Cb5xg0D8n180Ca31g0D7x3w0Ca31g0D9px80C9q2s0D7x3w0Cb5xg0D7k58",
     "0Cb5xg0D7k580Cb5xg0D7k580Cb5xg0D7x3w0Casys0D7x3w0Casys0D7x3w0Cb5xg0D7k580Cb5xg0D8n180Ca3",
     "1g0D7x3w0Casys0D8zzw0C9q2s0Dast80C5eis0Dcyl80C6hes0Dc8nw0C6udg0Dbvp80C6udg0Dvonw0C4olg0D",
     "e1h80C4olg0De1h80C4olg0Dc8nw0C7x9g0Dast80C7x9g0Dast80C7x9g0Dast80C8a840D"]⟩,
  ⟨"America/Santo_Domingo", [-16776, -16800, -18000, -14400, -16200], none,
    ["rduwky0BmkixcoChiw29cD67zw0C1dy840E62ha0Ccnle0E4h2m0Celyq0E47ta0Cei9e0E4bim0Ceek20E4dda0",
     "Cecpe0Ddkmtg0C1stc0D"]⟩,
  ⟨"America/Sao_Paulo", [-11188, -10800, -7200], none,
    ["rqdrxysB99k8x8C9a9c0B9io40C99980B8p65g0C6zuo0Bbs2o0C67zw0Bcjxg0C69uk0Bcjxg0C4ml80B5k02s0",
     "C6onw0Bhaas0C316k0Bcls40C4ml80Bcls40C66580Bcls40C67zw0B981s40C6u7w0Bbiw40C5rbw0Bd0lg0C5e",
     "d80Bcyqs0C5ed80Bdbpg0C64ak0Bcyqs0C64ak0Bcls40C5rbw0Bdbpg0C51ek0Bdbpg0C6h980Bc8tg0C6h980B",
     "c8tg0C64ak0Bc8tg0C6u7w0Bbxpg0C7iak0Bbiw40C6u7w0Bbiw40C7k580Bbiw40C6u7w0Bc8tg0C6h980Bdbpg",
     "0C5ed80Bcls40C64ak0Bdfes0C5nmk0Bc8tg0C6h980Bdbpg0C5rbw0Bbvus0C6h980Bcls40C64ak0Bcls40C6h",
     "980Bc8tg0C6h980Bc8tg0C6u7w0Bc8tg0C64ak0Bcls40C64ak0Bcls40C6h980Bc8tg0C6h980Bc8tg0C6h980B",
     "c8tg0C6h980Bdbpg0C5ed80B"]⟩,
  ⟨"America/Scoresbysund", [-5272, -7200, -3600, 0], some ⟨-7200, -3600, ⟨3, 5, 0, -3600⟩, ⟨10, 5, 0, 0⟩⟩,
    ["rrq2pegBx8ntpkC902o0B9cvs0D9cyk0C9d1c0D9d1c0C9d1c0D9d1c0C9d1c0D9q000C9d1c0D9d1c0C9d1c0D9",
     "d1c0C9d1c0D9d1c0C9d1c0D9d1c0C9d1c0D9d1c0C9d1c0D9q000C9d1c0D9d1c0C9d1c0D9d1c0C9d1c0D9d1c0",
     "C9d1c0D9d1c0C9d1c0D9d1c0C9q000Dasw00C7x6o0Dasw00C7x6o0Dasw00C7x6o0Db5uo0C7k800Db5uo0C7k8",
     "00Db5uo0C7x6o0Dasw00C7x6o0Dasw00C7x6o0Db5uo0C7k800Db5uo0C7k800Db5uo0C7k800Db5uo0C7x6o0Da",
     "sw00C7x6o0Dasw00C7x6o0Db5uo0C7k800Db5uo0C7k800Db5uo0C7x6o0Dasw00C7x6o0Dasw00C7x6o0Dasw00",
     "C7x6o0Db5uo0C7k800Db5uo0C7k800Db5uo0C7x6o0Dasw00C7x6o0Dasw00C7x6o0Db5uo0C7k800Db5uo0C7k8",
     "00Db5uo0Ciq2o0B"]⟩,
  ⟨"America/Sitka", [53927, -32473, -28800, -25200, -32400], some ⟨-32400, -28800, ⟨3, 2, 0, 7200⟩, ⟨11, 1, 0, 7200⟩⟩,
    ["r29pqs1Bh4yua0Cln701zD1wd180Ccawis0D9cyk0C9d440D9cyk0C9d440D9px80C9d440D9cyk0C9d440D9cyk",
     "0C3lpg0Df4d80C64g40Dclmk0C9d440D9px80C905g0D9px80C9d440D9cyk0C9d440D9cyk0C9d440D9cyk0C9d",
     "440D9cyk0C9d440D9px80C905g0D9px80E9d6w0C9cyk0E9d440C9cyk0E9d440C9cyk0E8a840Cafuk0E8a840C",
     "ast80E7x9g0Cast80E7x9g0Cast80E8a840Cafuk0E8a840Cafuk0E8a840Cast80E7x9g0Cast80E7x9g0Cast8",
     "0E8a840Cafuk0E8a840Cafuk0E8a840Cafuk0E8a840Cast80E7x9g0Cast80E7x9g0Cast80E8a840Cafuk0E8a",
     "840Cafuk0E8a840Cast80E7x9g0Cast80E7x9g0Cast80E6udg0C"]⟩,
  ⟨"America/St_Johns", [-12652, -9052, -12600, -9000, -5400], some ⟨-12600, -9000, ⟨3, 2, 0, 7200⟩, ⟨11, 1, 0, 7200⟩⟩,
    ["rs35dzgB8bx80Aar440Ba2vw0A9tjs0B53980Adkys0B9cyk0A9d440B9cyk0A9q2s0B8zzw0A9q2s0B8zzw0A9q",
     "2s0B8zzw0A9q2s0B8zzw0A9q2s0B9cyk0A9d440B9cyk0A9q2s0B8zzw0A9q2s0B8zzw0A9q2s0B8zzw0A9q2s0B",
     "8zzw0A9q2s0B9cyk0A9q2s0B8zzw0A9q2s0B8zzw0A7tmw0C1wfukD8zzw0Ca3480D7k580Cb5xg0D7k580Cb5xg",
     "0D7k580Cbiw40D776k0Cbiw40D7k580Cb5xg0D7k580Cb5xg0D1roo40Cbiw40D7k580Cb5xg0D7k580Cb5xg0D7",
     "k580Cb5xg0D7k580Cbiw40D7k580Cag040D7x3w0Casys0D7x3w0Casys0D7x3w0Casys0D7x3w0Casys0D7x3w0",
     "Cb5xg0D7x3w0Casys0D7x3w0Casys0D7x3w0Casys0D7x3w0Casys0D9px80C9d440D9cyk0C9d440D9cyk0C9d4",
     "40D9cyk0C9d440D9cyk0C9d440D9px80C905g0D9px80C9d440D9cyk0C9d440D9cyk0C9d440D9cyk0C9d440D9",
     "cyk0C9d440D9px80C9d440D9cyk0C9d440D9cyk0C9d440D9cyk0C9d440D9cyk0C9d440D9px80C905g0D9px80",
     "C9d440D9cyk0C9d440D9cyk0C9d440D9cyk0C9d440D9cyk0C9d440D9px80C905g0D9px80C9d440D9cyk0C9d4",
     "40D9cyk0C9d440D9cyk0C8a2loDafuk0C8a840Easqg0C7xc80Dast80C7x9g0Dast80C8a840Dafuk0C8a840Da",
     "fuk0C8a840Dast80C7x9g0Dast80C7x9g0Dast80C8a840Dafuk0C8a840Dafuk0C8a840Dafuk0C8a840Dast80",
     "C7x9g0Dast80C7x9g0Dast80C8a840Dafuk0C8a840Dafuk0C8a840Dast80C7x9g0Dast80C7x9g0Dast80C6ud",
     "g0Dc8nw0C6hes0Dc8nw0C6hes0Dc8nw0C6udg0Dc8nw0C6hes0Dc8tecC"]⟩,
  ⟨"America/Swift_Current", [-25880, -25200, -21600], none,
    ["rm177ywB6l1h14Ca2vw0Bc5jxg0C1wd180Basys0C8n180Ba31g0C7x3w0Basys0C7x3w0Basys0C7x3w0B3yles",
     "0C9cyk0Bs36s0C9cyk0B9d440C7x3w0Bb5xg0C7k580B5j4lg0C"]⟩,
  ⟨"America/Tegucigalpa", [-20932, -21600, -18000], none,
    ["ru5y05gByho0ikC7k580Bb5xg0C7k580B96x1g0C4qak0B"]⟩,
  ⟨"America/Thule", [-16508, -14400, -10800], some ⟨-14400, -10800, ⟨3, 2, 0, 7200⟩, ⟨11, 1, 0, 7200⟩⟩,
    ["rrq2y2kB12yzilgC9cyk0B9d440C9cyk0B9q2s0Cast80B7x9g0Cast80B7x9g0Cast80B8a840Cafuk0B8a840C",
     "afuk0B8a840Cafuk0B8a840Cast80B7x9g0Cast80B7x9g0Cast80B8a840Cafuk0B8a840Cafuk0B8a840Cast8",
     "0B7x9g0Cast80B7x9g0Cast80B6udg0C"]⟩,
  ⟨"America/Tijuana", [-28084, -25200, -28800], some ⟨-28800, -25200, ⟨3, 2, 0, 7200⟩, ⟨11, 1, 0, 7200⟩⟩,
    ["ruk3cs0B11juo0C1sm040B1si580C71s40B9cyk0C5iidg0B1ux6k0C18uw40Beluk0Coa5g0B7iak0Cb6300B7x",
     "3w0Casys0B7x3w0Casw00B7x6o0Casw00B7x6o0Casw00B7x6o0Cb5uo0B7x6o0Casw00B7x6o0Casw00B7x6o0C",
     "asw00B7x6o0Casw00B7x6o0Cb5uo0B7k800Cb5uo0B9d1c0C9d1c0B9d1c0C9d1c0B9d1c0C9d1c0B9q000C902o",
     "0B9q000C9d440B9cyk0C9d440B9cyk0C9d440B9cyk0C9d440B9cyk0C9d440B9px80C9d440B9cyk0C9d440B9c",
     "yk0C3lpg0Bf4d80C64g40Bclmk0C9d440B9px80C905g0B9px80C9d440B9cyk0C9d440B9cyk0C9d440B9cyk0C",
     "9d440B9cyk0C9d440B9px80C905g0B9px80C9d440B9cyk0C9d440B9cyk0C9d440B9cyk0C8a840Bafuk0C8a84",
     "0Bast80C7x9g0Bast80C7x9g0Bast80C8a840Bafuk0C8a840Bafuk0C8a840Bast80C7x9g0Bast80C7x9g0Bas",
     "t80C8a840Bafuk0C8a840Bafuk0C8a840Bafuk0C8a840Bast80C7x9g0Bast80C7x9g0Bast80C8a840Bafuk0C",
     "8a840Bafuk0C8a840Bast80C7x9g0Bast80C7x9g0Bast80C7x9g0Bast80C8a840Bafuk0C8a840Bafuk0C77c4",
     "0B"]⟩,
  ⟨"America/Toronto", [-19052, -18000, -14400], some ⟨-18000, -14400, ⟨3, 2, 0, 7200⟩, ⟨11, 1, 0, 7200⟩⟩,
    ["rggu418Bc5efesCa2vw0B7yx60Caqzy0B9q8c0C7jzo0Bbw0c0C6bp80Bcedg0C6h980Bc8tg0C6h980Bbvus0C7",
     "76k0Bbiw40C776k0Bbiw40C776k0Bbiw40C7k580Bb5xg0C7x3w0Basys0C7x3w0Basys0C7x3w0Basys0C7x3w0",
     "Bb5xg0C7k580Bb5xg0C7x3w0Basys0C7x3w0Basys0C7x3w0Basys0C7x3w0Basys0C7x3w0Basys0C7x3w0Bb5x",
     "g0C7k580Bb5xg0C2twfw0Basys0C7x3w0Basys0C7x3w0Basys0C7x3w0Basys0Cb5rw0B7x9g0Cast80B7x9g0C",
     "7x3w0Basys0C7x3w0Basys0C7x3w0Basys0C7x3w0Basys0C7x3w0Bb5xg0C7x3w0Basys0C9cyk0B9d440C9cyk",
     "0B9d440C9cyk0B9d440C9px80B9d440C9cyk0B9d440C9cyk0B9d440C9cyk0B9d440C9cyk0B9d440C9px80B90",
     "5g0C9px80B9d440C9cyk0B9d440C9cyk0B9d440C9cyk0B9d440C9cyk0B9d440C9px80B9d440C9cyk0B9d440C",
     "9cyk0B9d440C9cyk0B9d440C9cyk0B9d440C9px80B905g0C9px80B9d440C9cyk0B9d440C9cyk0B9d440C9cyk",
     "0B9d440C9cyk0B9d440C9px80B905g0C9px80B9d440C9cyk0B9d440C9cyk0B9d440C9cyk0B8a840Cafuk0B8a",
     "840Cast80B7x9g0Cast80B7x9g0Cast80B8a840Cafuk0B8a840Cafuk0B8a840Cast80B7x9g0Cast80B7x9g0C",
     "ast80B8a840Cafuk0B8a840Cafuk0B8a840Cafuk0B8a840Cast80B7x9g0Cast80B7x9g0Cast80B8a840Cafuk",
     "0B8a840Cafuk0B8a840Cast80B7x9g0Cast80B7x9g0Cast80B6udg0C"]⟩,
  ⟨"America/Vancouver", [-29548, -28800, -25200], some ⟨-28800, -25200, ⟨3, 2, 0, 7200⟩, ⟨11, 1, 0, 7200⟩⟩,
    ["raq5lgsBhw36b8Ca2vw0Bc5jxg0C1wd180Basys0C7x3w0Basys0C7x3w0Basys0C7x3w0Basys0C7x3w0Bb5xg0",
     "C7k580Bb5xg0C7x3w0Basys0C7x3w0Basys0C7x3w0Basys0C7x3w0Basys0C7x3w0Bb5xg0C7x3w0Basys0C7x3",
     "w0Basys0C7x3w0Basys0C7x3w0Basys0C7x3w0Bb5xg0C7k580Bb5xg0C9cyk0B9d440C9cyk0B9d440C9cyk0B9",
     "d440C9px80B905g0C9px80B9d440C9cyk0B9d440C9cyk0B9d440C9cyk0B9d440C9cyk0B9d440C9px80B9d440",
     "C9cyk0B9d440C9cyk0B9d440C9cyk0B9d440C9cyk0B9d440C9px80B905g0C9px80B9d440C9cyk0B9d440C9cy",
     "k0B9d440C9cyk0B9d440C9cyk0B9d440C9px80B905g0C9px80B9d440C9cyk0B9d440C9cyk0B9d440C9cyk0B8",
     "a840Cafuk0B8a840Cast80B7x9g0Cast80B7x9g0Cast80B8a840Cafuk0B8a840Cafuk0B8a840Cast80B7x9g0",
     "Cast80B7x9g0Cast80B8a840Cafuk0B8a840Cafuk0B8a840Cafuk0B8a840Cast80B7x9g0Cast80B7x9g0Cast",
     "80B8a840Cafuk0B8a840Cafuk0B8a840Cast80B7x9g0Cast80B7x9g0Cast80B6udg0C"]⟩,
  ⟨"America/Whitehorse", [-32412, -32400, -28800, -25200], none,
    ["rjennocB97l6voCa2vw0Basys0C882c0Bbmiwc0C1wd180Ba7n3w0D9q000B64dc0C7e3pg0D9cyk0C9d440D9cy",
     "k0C9d440D9px80C905g0D9px80C9d440D9cyk0C9d440D9cyk0C9d440D9cyk0C8a840Dafuk0C8a840Dast80C7",
     "x9g0Dast80C7x9g0Dast80C8a840Dafuk0C8a840Dafuk0C8a840Dast80C7x9g0Dast80C7x9g0Dast80C8a840",
     "Dafuk0C8a840Dafuk0C8a840Dafuk0C8a840Dast80C7x9g0Dast80C7x9g0Dast80C8a840Dafuk0C8a840Dafu",
     "k0C8a840Dast80C7x9g0Dast80C7x9g0Dast80C6udg0Dc8nw0C6hes0Dc8nw0C6hes0Dc8nw0C6udg0Dc8nw0C6",
     "hes0Dc8nw0C6hes0Dc8nw0C6hes0Dc8nw0C6hes0Dc8nw0C6hes0Dc8nw0C6udg0Dc8nw0C6hes0Dc8nw0C6hes0",
     "Dc8nw0C6hes0Dc8nw0C6hes0D"]⟩,
  ⟨"America/Winnipeg", [-23316, -21600, -18000], some ⟨-21600, -18000, ⟨3, 2, 0, 7200⟩, ⟨11, 1, 0, 7200⟩⟩,
    ["rckm1zoBf0j80cC7k580Btj700Ca2vw0B9ok840C6u7w0B2a5hg0C1wd180Bbiw40C7x3w0Ba31g0C7x3w0Basys",
     "0C7x3w0Basys0C7x3w0Bb7s40C7tek0Bautg0C7x3w0Basys0C7x3w0Basys0C7x3w0Basys0C7x3w0Basys0C7x",
     "3w0Bb5xg0C7x3w0Basys0C7x3w0Basys0C7x3w0Basys0C9cyk0B9d440C7x3w0B1cm2s0C7k580B1cm2s0C9q00",
     "0B9d1c0C9d1c0B9d1c0C9d1c0B9d1c0C9d1c0B9d1c0C9d1c0B9d1c0C9q000B9d1c0C9d1c0B9d1c0C9d1c0B9d",
     "1c0C9d1c0B9d1c0C9d1c0B9d1c0C9q000B902o0C9q000B9d1c0C9d1c0B9d1c0C9d1c0B9d1c0C9d1c0B9d1c0C",
     "9d1c0B9d1c0C9q000B902o0C9q000B9d1c0C9d1c0B9d1c0C9d1c0B9d1c0C9d1c0B8a5c0Cafxc0B8a5c0Casw0",
     "0B7x6o0Casw00B7x6o0Casw00B8a5c0Cafxc0B8a5c0Cafxc0B8a5c0Casw00B7x6o0Casw00B7x6o0Casw00B8a",
     "5c0Cafxc0B8a5c0Cafxc0B8a5c0Cafxc0B8a5c0Casw00B7x6o0Casw00B7x6o0Casw00B8a5c0Cafxc0B8a5c0C",
     "afxc0B8a5c0Casw00B7x6o0Casw00B7x6o0Cast80B6udg0C"]⟩,
  ⟨"America/Yakutat", [52865, -33535, -32400, -28800], some ⟨-32400, -28800, ⟨3, 2, 0, 7200⟩, ⟨11, 1, 0, 7200⟩⟩,
    ["r29pqs1Bh4yv3iCln720hD1wd180Ccawis0D9cyk0C9d440D9cyk0C9d440D9px80C9d440D9cyk0C9d440D9cyk",
     "0C3lpg0Df4d80C64g40Dclmk0C9d440D9px80C905g0D9px80C9d440D9cyk0C9d440D9cyk0C9d440D9cyk0C9d",
     "440D9cyk0C9d440D9px80C905g0D9px80C9d440D9cyk0C9d440D9cyk0C9d440D9cyk0C8a840Dafuk0C8a840D",
     "ast80C7x9g0Dast80C7x9g0Dast80C8a840Dafuk0C8a840Dafuk0C8a840Dast80C7x9g0Dast80C7x9g0Dast8",
     "0C8a840Dafuk0C8a840Dafuk0C8a840Dafuk0C8a840Dast80C7x9g0Dast80C7x9g0Dast80C8a840Dafuk0C8a",
     "840Dafuk0C8a840Dast80C7x9g0Dast80C7x9g0Dast80C6udg0D"]⟩]

end RelationalSearch.ZoneTable
