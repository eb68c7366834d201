import RelationalSearch.Calendar.Zone

/-!
# Zones of the Americas, first half

Rows of the time zone database; `ZoneRow` says how they are read.
-/

namespace RelationalSearch.ZoneTable

/-- Zones of the Americas, first half. -/
def americaFirst : List ZoneRow :=
 [⟨"America/Adak", [44002, -42398, -39600, -36000, -32400], some ⟨-36000, -32400, ⟨3, 2, 0, 7200⟩, ⟨11, 1, 0, 7200⟩⟩,
    ["r29pqs1Bh4z1xpCln70qaD1wd180Ccawis0D9cyk0C9d440D9cyk0C9d440D9px80C9d440D9cyk0C9d440D9cyk",
     "0C3lpg0Df4d80C64g40Dclmk0C9d440D9px80C905g0D9px80C9d440D9cyk0C9d440D9cyk0C9d440D9cyk0C9d",
     "440D9cyk0C9d440D9px80C905g0Dj2yk0E9cyk0D9d440E9cyk0D9d440E9cyk0D8a840Eafuk0D8a840East80D",
     "7x9g0East80D7x9g0East80D8a840Eafuk0D8a840Eafuk0D8a840East80D7x9g0East80D7x9g0East80D8a84",
     "0Eafuk0D8a840Eafuk0D8a840Eafuk0D8a840East80D7x9g0East80D7x9g0East80D8a840Eafuk0D8a840Eaf",
     "uk0D8a840East80D7x9g0East80D7x9g0East80D6udg0E"]⟩,
  ⟨"America/Anchorage", [50424, -35976, -36000, -32400, -28800], some ⟨-32400, -28800, ⟨3, 2, 0, 7200⟩, ⟨11, 1, 0, 7200⟩⟩,
    ["r29pqs1Bh4ywzbCln72woD1wd180Ccawis0D9cyk0C9d440D9cyk0C9d440D9px80C9d440D9cyk0C9d440D9cyk",
     "0C3lpg0Df4d80C64g40Dclmk0C9d440D9px80C905g0D9px80C9d440D9cyk0C9d440D9cyk0C9d440D9cyk0C9d",
     "440D9cyk0C9d440D9px80C905g0Dj2yk0E9cyk0D9d440E9cyk0D9d440E9cyk0D8a840Eafuk0D8a840East80D",
     "7x9g0East80D7x9g0East80D8a840Eafuk0D8a840Eafuk0D8a840East80D7x9g0East80D7x9g0East80D8a84",
     "0Eafuk0D8a840Eafuk0D8a840Eafuk0D8a840East80D7x9g0East80D7x9g0East80D8a840Eafuk0D8a840Eaf",
     "uk0D8a840East80D7x9g0East80D7x9g0East80D6udg0E"]⟩,
  ⟨"America/Araguaina", [-11568, -10800, -7200], none,
    ["rqdry9cB99k8moC9a9c0B9io40C99980B8p65g0C6zuo0Bbs2o0C67zw0Bcjxg0C69uk0Bcjxg0C4ml80B5mf440",
     "C49mk0Bhaas0C316k0Bcls40C4ml80Bcls40C66580Bcls40C67zw0B981s40C6u7w0Bbiw40C5rbw0Bd0lg0C5e",
     "d80Bcyqs0C5ed80Bdbpg0C64ak0B2yl440C64ak0Bc8tg0C6u7w0Bbxpg0C7iak0Bbiw40C6u7w0Bbiw40C7k580",
     "Bbiw40C6u7w0Bc8tg0C6h980Bdbpg0C5ed80B51udg0C64ak0B"]⟩,
  ⟨"America/Argentina/Buenos_Aires", [-14028, -15408, -14400, -10800, -7200], none,
    ["rgdn6toBdb2bqcC5iv8k0D67zw0Ca4w40D73h80Ccls40D66580Ccls40D66580Ccls40D66580Ccls40D67zw0C",
     "cls40D66580Ccls40D66580Ccls40D66580Ccls40D67zw0C6a040Dhy7w0C6a040Dxovw0C3uys0D18nbw0Cb0d",
     "g0D8ve2k0C3uys0D3yik0Cbqas0D71mk0Cbqas0D71mk0Cbqas0D8ovw0C9d440D9px80C9d440D9cyk0C9d440D",
     "28t6k0E51ek0D7m2qs0E4tzw0Dbiw40E776k0Dbvus0E6u7w0Dbvus0E6u7w0Dbvus0E776k0D7qcg40E3yik0Db",
     "5xg0E7k580D"]⟩,
  ⟨"America/Argentina/Catamarca", [-15788, -15408, -14400, -10800, -7200], none,
    ["rgdn86kBdb2adgC5iv8k0D67zw0Ca4w40D73h80Ccls40D66580Ccls40D66580Ccls40D66580Ccls40D67zw0C",
     "cls40D66580Ccls40D66580Ccls40D66580Ccls40D67zw0C6a040Dhy7w0C6a040Dxovw0C3uys0D18nbw0Cb0d",
     "g0D8ve2k0C3uys0D3yik0Cbqas0D71mk0Cbqas0D71mk0Cbqas0D8ovw0C9d440D9px80C9d440D9cyk0C9d440D",
     "28t6k0E51ek0D7m2qs0E4tzw0Dbiw40E776k0Dbvus0E6u7w0Cbvxk0E6u540Dbvus0E776k0D5v42s0Cz9g0D1u",
     "93w0E3yik0D"]⟩,
  ⟨"America/Argentina/Cordoba", [-15408, -14400, -10800, -7200], none,
    ["rtopik0B5iv8k0C67zw0Ba4w40C73h80Bcls40C66580Bcls40C66580Bcls40C66580Bcls40C67zw0Bcls40C6",
     "6580Bcls40C66580Bcls40C66580Bcls40C67zw0B6a040Chy7w0B6a040Cxovw0B3uys0C18nbw0Bb0dg0C8ve2",
     "k0B3uys0C3yik0Bbqas0C71mk0Bbqas0C71mk0Bbqas0C8ovw0B9d440C9px80B9d440C9cyk0B9d440C28t6k0D",
     "51ek0C7m2qs0D4tzw0Cbiw40D776k0Cbvus0D6u7w0Bbvxk0D6u540Cbvus0D776k0C7qcg40D3yik0Cb5xg0D7k",
     "580C"]⟩,
  ⟨"America/Argentina/Jujuy", [-15672, -15408, -14400, -10800, -7200], none,
    ["rgdn83cBdb2agoC5iv8k0D67zw0Ca4w40D73h80Ccls40D66580Ccls40D66580Ccls40D66580Ccls40D67zw0C",
     "cls40D66580Ccls40D66580Ccls40D66580Ccls40D67zw0C6a040Dhy7w0C6a040Dxovw0C3uys0D18nbw0Cb0d",
     "g0D8ve2k0C3uys0D3yik0Cbqas0D71mk0Cbqas0D71mk0Cbqas0D8ovw0C9d440D9px80C9d440D9cyk0C9d440D",
     "28t6k0E51ek0D7m2qs0E4tzw0Dbiw40E776k0Cc8w80D776k0Cag040E7k2g0Dbvus0E776k0D7qcg40E3yik0D"]⟩,
  ⟨"America/Argentina/La_Rioja", [-16044, -15408, -14400, -10800, -7200], none,
    ["rgdn8doBdb2a6cC5iv8k0D67zw0Ca4w40D73h80Ccls40D66580Ccls40D66580Ccls40D66580Ccls40D67zw0C",
     "cls40D66580Ccls40D66580Ccls40D66580Ccls40D67zw0C6a040Dhy7w0C6a040Dxovw0C3uys0D18nbw0Cb0d",
     "g0D8ve2k0C3uys0D3yik0Cbqas0D71mk0Cbqas0D71mk0Cbqas0D8ovw0C9d440D9px80C9d440D9cyk0C9d440D",
     "28t6k0E51ek0D7m2qs0E4tzw0Dbiw40E776k0Dbvus0E6qik0C3g880D8jbw0E6u7w0Dbvus0E776k0D5v42s0Cz",
     "9g0D1u93w0E3yik0D"]⟩,
  ⟨"America/Argentina/Mendoza", [-16516, -15408, -14400, -10800, -7200], none,
    ["rgdn8qsBdb29t8C5iv8k0D67zw0Ca4w40D73h80Ccls40D66580Ccls40D66580Ccls40D66580Ccls40D67zw0C",
     "cls40D66580Ccls40D66580Ccls40D66580Ccls40D67zw0C6a040Dhy7w0C6a040Dxovw0C3uys0D18nbw0Cb0d",
     "g0D8ve2k0C3uys0D3yik0Cbqas0D71mk0Cbqas0D71mk0Cbqas0D8ovw0C9d440D9px80C9d440D9cyk0C9d440D",
     "28t6k0E51ek0D7m2qs0E4tzw0Dbiw40E776k0Cbktk0D71mk0Cbqas0D73h80Cbvus0E773s0D5unes0C6hes0D1",
     "p7mk0E3yik0D"]⟩,
  ⟨"America/Argentina/Rio_Gallegos", [-16612, -15408, -14400, -10800, -7200], none,
    ["rgdn8tgBdb29qkC5iv8k0D67zw0Ca4w40D73h80Ccls40D66580Ccls40D66580Ccls40D66580Ccls40D67zw0C",
     "cls40D66580Ccls40D66580Ccls40D66580Ccls40D67zw0C6a040Dhy7w0C6a040Dxovw0C3uys0D18nbw0Cb0d",
     "g0D8ve2k0C3uys0D3yik0Cbqas0D71mk0Cbqas0D71mk0Cbqas0D8ovw0C9d440D9px80C9d440D9cyk0C9d440D",
     "28t6k0E51ek0D7m2qs0E4tzw0Dbiw40E776k0Dbvus0E6u7w0Dbvus0E6u7w0Dbvus0E776k0D5v42s0Cz9g0D1u",
     "93w0E3yik0D"]⟩,
  ⟨"America/Argentina/Salta", [-15700, -15408, -14400, -10800, -7200], none,
    ["rgdn844Bdb2afwC5iv8k0D67zw0Ca4w40D73h80Ccls40D66580Ccls40D66580Ccls40D66580Ccls40D67zw0C",
     "cls40D66580Ccls40D66580Ccls40D66580Ccls40D67zw0C6a040Dhy7w0C6a040Dxovw0C3uys0D18nbw0Cb0d",
     "g0D8ve2k0C3uys0D3yik0Cbqas0D71mk0Cbqas0D71mk0Cbqas0D8ovw0C9d440D9px80C9d440D9cyk0C9d440D",
     "28t6k0E51ek0D7m2qs0E4tzw0Dbiw40E776k0Dbvus0E6u7w0Cbvxk0E6u540Dbvus0E776k0D7qcg40E3yik0D"]⟩,
  ⟨"America/Argentina/San_Juan", [-16444, -15408, -14400, -10800, -7200], none,
    ["rgdn8osBdb29v8C5iv8k0D67zw0Ca4w40D73h80Ccls40D66580Ccls40D66580Ccls40D66580Ccls40D67zw0C",
     "cls40D66580Ccls40D66580Ccls40D66580Ccls40D67zw0C6a040Dhy7w0C6a040Dxovw0C3uys0D18nbw0Cb0d",
     "g0D8ve2k0C3uys0D3yik0Cbqas0D71mk0Cbqas0D71mk0Cbqas0D8ovw0C9d440D9px80C9d440D9cyk0C9d440D",
     "28t6k0E51ek0D7m2qs0E4tzw0Dbiw40E776k0Dbvus0E6qik0C3g880D8jbw0E6u7w0Dbvus0E776k0D5v2840C2",
     "txg0D1sgak0E3yik0D"]⟩,
  ⟨"America/Argentina/San_Luis", [-15924, -15408, -14400, -10800, -7200], none,
    ["rgdn8acBdb2a9oC5iv8k0D67zw0Ca4w40D73h80Ccls40D66580Ccls40D66580Ccls40D66580Ccls40D67zw0C",
     "cls40D66580Ccls40D66580Ccls40D66580Ccls40D67zw0C6a040Dhy7w0C6a040Dxovw0C3uys0D18nbw0Cb0d",
     "g0D8ve2k0C3uys0D3yik0Cbqas0D71mk0Cbqas0D71mk0Cbqas0D8ovw0C9d440D9px80C9d440D9cyk0C9d440D",
     "28t6k0E51ek0D7m2qs0E4tzw0Dbiw40E7pp80Cb2aw0D71mk0C4qg40D6s8ik0C2txg0D1sgak0E14nw0D2gys0C",
     "b5xg0D7k580Cb5xg0D"]⟩,
  ⟨"America/Argentina/Tucuman", [-15652, -15408, -14400, -10800, -7200], none,
    ["rgdn82sBdb2ah8C5iv8k0D67zw0Ca4w40D73h80Ccls40D66580Ccls40D66580Ccls40D66580Ccls40D67zw0C",
     "cls40D66580Ccls40D66580Ccls40D66580Ccls40D67zw0C6a040Dhy7w0C6a040Dxovw0C3uys0D18nbw0Cb0d",
     "g0D8ve2k0C3uys0D3yik0Cbqas0D71mk0Cbqas0D71mk0Cbqas0D8ovw0C9d440D9px80C9d440D9cyk0C9d440D",
     "28t6k0E51ek0D7m2qs0E4tzw0Dbiw40E776k0Dbvus0E6u7w0Cbvxk0E6u540Dbvus0E776k0D5v42s0Cmas0D1u",
     "m2k0E3yik0Db5xg0E7k580D"]⟩,
  ⟨"America/Argentina/Ushuaia", [-16392, -15408, -14400, -10800, -7200], none,
    ["rgdn8ncBdb29woC5iv8k0D67zw0Ca4w40D73h80Ccls40D66580Ccls40D66580Ccls40D66580Ccls40D67zw0C",
     "cls40D66580Ccls40D66580Ccls40D66580Ccls40D67zw0C6a040Dhy7w0C6a040Dxovw0C3uys0D18nbw0Cb0d",
     "g0D8ve2k0C3uys0D3yik0Cbqas0D71mk0Cbqas0D71mk0Cbqas0D8ovw0C9d440D9px80C9d440D9cyk0C9d440D",
     "28t6k0E51ek0D7m2qs0E4tzw0Dbiw40E776k0Dbvus0E6u7w0Dbvus0E6u7w0Dbvus0E776k0D5v0dg0C12ys0D1",
     "u93w0E3yik0D"]⟩,
  ⟨"America/Asuncion", [-13840, -14400, -10800], none,
    ["rznodcgBldwofkCs4vw0Bs6w40C7tek0Bb0dg0C7rjw0Bb0dg0C7rjw0Bb0dg0C9cyk0B9eys0C9et80B9eys0C9",
     "cyk0B9eys0C9cyk0B9eys0C9cyk0B9eys0C9et80B9eys0C9cyk0B9eys0C9cyk0B9eys0C9cyk0B9eys0C9et80",
     "B9eys0C9cyk0Bahus0C8a2k0B9eys0C9cyk0B9o840C7k580Bb7s40C93p80B9gtg0C7nuk0Bb42s0C7lzw0Bb5x",
     "g0C7tek0Bb9ms0C776k0Bbiw40C7k580Bb5xg0C7x3w0Basys0C7x3w0Basys0C7x3w0Bb5xg0C9cyk0B7kas0Cb",
     "5rw0B7x9g0Cast80Ba31g0C7k580Bb5xg0C7k580Bb5xg0C7k580Bbiw40C776k0Bbiw40C776k0Bbiw40C8zzw0",
     "B905g0C9px80B905g0C9px80B9d440C8n180Ba31g0C8n180Ba31g0C8n180Ba31g0C8zzw0B9q2s0C8zzw0B9q2",
     "s0C8zzw0Ba31g0C8n180Ba31g0C8n180Ba31g0C8zzw0B9q2s0C8zzw0B9q2s0C8zzw0B9q2s0C8zzw0Ba31g0C"]⟩,
  ⟨"America/Bahia", [-9244, -10800, -7200], none,
    ["rqdrwgsB99kaf8C9a9c0B9io40C99980B8p65g0C6zuo0Bbs2o0C67zw0Bcjxg0C69uk0Bcjxg0C4ml80B5mf440",
     "C49mk0Bhaas0C316k0Bcls40C4ml80Bcls40C66580Bcls40C67zw0B981s40C6u7w0Bbiw40C5rbw0Bd0lg0C5e",
     "d80Bcyqs0C5ed80Bdbpg0C64ak0Bcyqs0C64ak0Bcls40C5rbw0Bdbpg0C51ek0Bdbpg0C6h980Bc8tg0C6h980B",
     "c8tg0C64ak0Bc8tg0C6u7w0Bbxpg0C7iak0Bbiw40C6u7w0Bbiw40C7k580Bbiw40C6u7w0Bc8tg0C6h980Bdbpg",
     "0C5ed80B4irc40C6u7w0B"]⟩,
  ⟨"America/Bahia_Banderas", [-25260, -25200, -21600, -18000], none,
    ["ruk3cs0B2u5s00C1si580B8jhg0C7x3w0B9eys0C591h80Bs5qoc0Cafuk0B8a840Cafuk0B8a840Cafuk0B8a84",
     "0Cast80B7x9g0Cast80B9q2s0C7k580B9q2s0Cafuk0B8a840Cafuk0B8a840Cast80B7x9g0Cast80B7x9g0Cas",
     "t80B7x9g0Cast80B8a840Cafuk0B8a840Cafuk0B8a840Dasqg0C7x9g0Dast80C7x9g0Dast80C8a840Dafuk0C",
     "8a840Dafuk0C8a840Dafuk0C8a840Dast80C7x9g0Dast80C7x9g0Dast80C8a840Dafuk0C8a840Dafuk0C8a84",
     "0Dast80C7x9g0Dast80C"]⟩,
  ⟨"America/Barbados", [-14309, -14400, -10800, -12600], none,
    ["rp5oz1hBfzq06jC6w840Bcjrw0C6hes0Bb7mk0D7ves0Bh3dpc0C5rbw0Ba31g0C8n180Ba31g0C8n180Bag040C",
     "84ik0B"]⟩,
  ⟨"America/Belem", [-11636, -10800, -7200], none,
    ["rqdryb8B99k8ksC9a9c0B9io40C99980B8p65g0C6zuo0Bbs2o0C67zw0Bcjxg0C69uk0Bcjxg0C4ml80B5mf440",
     "C49mk0Bhaas0C316k0Bcls40C4ml80Bcls40C66580Bcls40C67zw0B981s40C6u7w0Bbiw40C5rbw0Bd0lg0C5e",
     "d80B"]⟩,
  ⟨"America/Belize", [-21168, -21600, -19800, -18000], none,
    ["rpguz00B3edkc0C6ham0Bc8s20C6u9a0Bbvte0C6u9a0Bbvte0C6u9a0Bc8s20C6ham0Bc8s20C6ham0Bc8s20C6",
     "u9a0Bbvte0C6u9a0Bbvte0C6u9a0Bbvte0C6u9a0Bc8s20C6ham0Bc8s20C6ham0Bc8s20C6u9a0Bbvte0C6u9a0",
     "Bbvte0C6u9a0Bc8s20C6ham0Bc8s20C6ham0Bc8s20C6ham0Bc8s20C6u9a0Bbvte0C6u9a0Bbvte0C6u9a0Bc8s",
     "20C6ham0Bc8s20C6ham0Bc8s20C6u9a0B6uc20D1t67w0Bxulg0C6u9a0Bbvte0C6u9a0Bbvte0C6u9a0Bc8s20C",
     "6ham0Bc8s20C6ham0Bc8s20C6u9a0Bbvte0C6u9a0Bbvte0C6u9a0Bbvte0C6u9a0Bc8s20C6ham0Bc8s20C6ham",
     "0Bc8s20C6u9a0Bbvte0C6u9a0Bbvte0C6u9a0Bc8s20C6ham0Bc8s20C6ham0Bc8s20C6ham0Bc8s20C6u9a0Bbv",
     "te0C6u9a0Bbvte0C6u9a0Bc8s20C6ham0B319de0D3e580B4mcys0D2vmk0B"]⟩,
  ⟨"America/Boa_Vista", [-14560, -14400, -10800], none,
    ["rqds0kgB99k93kC9a9c0B9io40C99980B8p65g0C6zuo0Bbs2o0C67zw0Bcjxg0C69uk0Bcjxg0C4ml80B5mf440",
     "C49mk0Bhaas0C316k0Bcls40C4ml80Bcls40C66580Bcls40C67zw0B981s40C6u7w0Bbiw40C5rbw0Bd0lg0C5e",
     "d80B62xk40C7k580Bbiw40Ccvw0B"]⟩,
  ⟨"America/Bogota", [-17776, -18000, -14400], none,
    ["rqujsdsB14f1hi8Ceefw0B"]⟩,
  ⟨"America/Boise", [-27889, -28800, -25200, -21600], some ⟨-25200, -21600, ⟨3, 2, 0, 7200⟩, ⟨11, 1, 0, 7200⟩⟩,
    ["ranx0w0Bhxltk0Cast80B7x9g0Cast80B1um840C9s7jw0D1wd180Cb9gdg0D9cyk0C9d440D9cyk0C9d440D9cy",
     "k0C9d440D9cyk0C9d440D9px80C9d440D9cyk0C9d440D9cyk0C51k40Ddoik0C64g40Dclmk0C9d440D9px80C9",
     "05g0D9px80C9d440D9cyk0C9d440D9cyk0C9d440D9cyk0C9d440D9cyk0C9d440D9px80C905g0D9px80C9d440",
     "D9cyk0C9d440D9cyk0C9d440D9cyk0C8a840Dafuk0C8a840Dast80C7x9g0Dast80C7x9g0Dast80C8a840Dafu",
     "k0C8a840Dafuk0C8a840Dast80C7x9g0Dast80C7x9g0Dast80C8a840Dafuk0C8a840Dafuk0C8a840Dafuk0C8",
     "a840Dast80C7x9g0Dast80C7x9g0Dast80C8a840Dafuk0C8a840Dafuk0C8a840Dast80C7x9g0Dast80C7x9g0",
     "Dast80C6udg0D"]⟩,
  ⟨"America/Cambridge_Bay", [0, -25200, -21600, -18000], some ⟨-25200, -21600, ⟨3, 2, 0, 7200⟩, ⟨11, 1, 0, 7200⟩⟩,
    ["rtih400Bbjeec0C1wd180Bdvfpg0C9cyk0B9d440C9cyk0B9d440C9cyk0B9d440C9cyk0B9d440C9px80B905g0",
     "C9px80B9d440C9cyk0B9d440C9cyk0B9d440C9cyk0B9d440C9cyk0B9d440C9px80B905g0C9px80B9d440C9cy",
     "k0B9d440C9cyk0B9d440C9cyk0B8a840Cafuk0B8a840Cast80B7x9g0Cast80B7x9g0Cast80B8a840Cafuk0B8",
     "a840Cafuk0B8a840Cast80B7x9g0Cast80B7x9g0Cast80B8a840Cafuk0B8a840Cafuk0B8a840Cafuk0B8a840",
     "Cipzw0Db5mc0Cidcc0B8a840Cafuk0B8a840Cafuk0B8a840Cast80B7x9g0Cast80B7x9g0Cast80B6udg0C"]⟩,
  ⟨"America/Campo_Grande", [-13108, -14400, -10800], none,
    ["rqdrzg4B99ka7wC9a9c0B9io40C99980B8p65g0C6zuo0Bbs2o0C67zw0Bcjxg0C69uk0Bcjxg0C4ml80B5mf440",
     "C49mk0Bhaas0C316k0Bcls40C4ml80Bcls40C66580Bcls40C67zw0B981s40C6u7w0Bbiw40C5rbw0Bd0lg0C5e",
     "d80Bcyqs0C5ed80Bdbpg0C64ak0Bcyqs0C64ak0Bcls40C5rbw0Bdbpg0C51ek0Bdbpg0C6h980Bc8tg0C6h980B",
     "c8tg0C64ak0Bc8tg0C6u7w0Bbxpg0C7iak0Bbiw40C6u7w0Bbiw40C7k580Bbiw40C6u7w0Bc8tg0C6h980Bdbpg",
     "0C5ed80Bcls40C64ak0Bdfes0C5nmk0Bc8tg0C6h980Bdbpg0C5rbw0Bbvus0C6h980Bcls40C64ak0Bcls40C6h",
     "980Bc8tg0C6h980Bc8tg0C6u7w0Bc8tg0C64ak0Bcls40C64ak0Bcls40C6h980Bc8tg0C6h980Bc8tg0C6h980B",
     "c8tg0C6h980Bdbpg0C5ed80B"]⟩,
  ⟨"America/Cancun", [-20824, -21600, -18000, -14400], none,
    ["ruk3a00Bvb0dk0Cj8d00B6x2wc0Cafuk0B8a840Cipzw0D64ak0C4bms0B8a840Cast80B7x9g0Cast80B9q2s0C",
     "7k580B9q2s0Cafuk0B8a840Cafuk0B8a840Cast80B7x9g0Cast80B7x9g0Cast80B7x9g0Cast80B8a840Cafuk",
     "0B8a840Cafuk0B8a840Cast80B7x9g0Cast80B7x9g0Cast80B8a840Cafuk0B8a840Cafuk0B51k40C"]⟩,
  ⟨"America/Caracas", [-16064, -16060, -16200, -14400], none,
    ["rduwke8BbjfjzwCrlo83wDmeoxm0C4dps00D"]⟩,
  ⟨"America/Cayenne", [-12560, -14400, -10800], none,
    ["rp2pj0wBtcw6r4C"]⟩,
  ⟨"America/Chicago", [-21036, -21600, -18000], some ⟨-21600, -18000, ⟨3, 2, 0, 7200⟩, ⟨11, 1, 0, 7200⟩⟩,
    ["ranwvc0Bhxltk0Cast80B7x9g0Cast80Bbvus0C776k0B7kas0Cb5rw0B9d440C7k580Bb5xg0C7x3w0Basys0C7",
     "x3w0Basys0C7x3w0Basys0C7x3w0Basys0C7x3w0Bb5xg0C7x3w0Basys0C7x3w0Basys0C7x3w0Basys0C7x3w0",
     "Basys0C7x3w0Bb5xg0C7k580Bb5xg0C7x3w0Basys0C7x3w0B7x9g0Cdbjw0B8a840C7x3w0Basys0C7x3w0Bb5x",
     "g0C7k580Bb5xg0C7x3w0Basys0C7x3w0B6w840C1wd180Basys0C7x3w0Basys0C7x3w0Basys0C7x3w0Basys0C",
     "7x3w0Bb5xg0C7k580Bb5xg0C7x3w0Basys0C7x3w0Basys0C7x3w0Basys0C7x3w0Basys0C9px80B9d440C9cyk",
     "0B9d440C9cyk0B9d440C9cyk0B9d440C9cyk0B9d440C9px80B9d440C9cyk0B9d440C9cyk0B9d440C9cyk0B9d",
     "440C9cyk0B9d440C9px80B905g0C9px80B9d440C9cyk0B9d440C9cyk0B9d440C9cyk0B9d440C9cyk0B9d440C",
     "9px80B9d440C9cyk0B9d440C9cyk0B3lpg0Cf4d80B64g40Cclmk0B9d440C9px80B905g0C9px80B9d440C9cyk",
     "0B9d440C9cyk0B9d440C9cyk0B9d440C9cyk0B9d440C9px80B905g0C9px80B9d440C9cyk0B9d440C9cyk0B9d",
     "440C9cyk0B8a840Cafuk0B8a840Cast80B7x9g0Cast80B7x9g0Cast80B8a840Cafuk0B8a840Cafuk0B8a840C",
     "ast80B7x9g0Cast80B7x9g0Cast80B8a840Cafuk0B8a840Cafuk0B8a840Cafuk0B8a840Cast80B7x9g0Cast8",
     "0B7x9g0Cast80B8a840Cafuk0B8a840Cafuk0B8a840Cast80B7x9g0Cast80B7x9g0Cast80B6udg0C"]⟩,
  ⟨"America/Chihuahua", [-25460, -25200, -21600, -18000], none,
    ["ruk3cs0B2u5s00C1si580B8jhg0C7x3w0B9eys0Cxes2s0Dafuk0C8a840Dafuk0Ciq5g0B8a840Cast80B7x9g0",
     "Cast80B9q2s0C7k580B9q2s0Cafuk0B8a840Cafuk0B8a840Cast80B7x9g0Cast80B7x9g0Cast80B7x9g0Cast",
     "80B8a840Cafuk0B8a840Cafuk0B8a840Cast80B7x9g0Cast80B7x9g0Cast80B8a840Cafuk0B8a840Cafuk0B8",
     "a840Cafuk0B8a840Cast80B7x9g0Cast80B7x9g0Cast80B8a840Cafuk0B8a840Cafuk0B8a840Cast80B7x9g0",
     "C"]⟩,
  ⟨"America/Ciudad_Juarez", [-25556, -25200, -21600, -18000], some ⟨-25200, -21600, ⟨3, 2, 0, 7200⟩, ⟨11, 1, 0, 7200⟩⟩,
    ["ruk3cs0B2u5s00C1si580B8jhg0C7x3w0B9eys0Cxes2s0Dafuk0C8a840Dafuk0Ciq5g0B8a840Cast80B7x9g0",
     "Cast80B9q2s0C7k580B9q2s0Cafuk0B8a840Cafuk0B8a840Cast80B7x9g0Cast80B7x9g0Cast80B7x9g0Cast",
     "80B8a840Cafuk0B8a840Cafuk0B77c40Cc8nw0B6hes0Cc8nw0B6hes0Cc8nw0B6hes0Cc8nw0B6hes0Cc8nw0B6",
     "hes0Cc8nw0B6udg0Cc8nw0B6hes0Cc8nw0B6hes0Cc8nw0B6hes0Cc8nw0B6hes0Cc8nw0B6udg0Cc8nw0B6hes0",
     "Cdgyc0B"]⟩,
  ⟨"America/Costa_Rica", [-20173, -21600, -18000], none,
    ["ru218wdBubtl3nC51ek0Bdoo40C51ek0B5jso40C8drw0Bacas0C2xh80B"]⟩,
  ⟨"America/Coyhaique", [-17296, -16965, -18000, -14400, -10800], none,
    ["rduwlcgBag6l2tC3dlssrB157b79Df4e0rB49hzb9Daye0rC7ves0Dawik0C7ves0Dawik0C7ves0Dawik0C7ves",
     "0Dayd80C7ves0D534ik0C351g0D2fnh80C2mg00Db73400E7k580Dc8tg0E6h980Da31g0E7x3w0Dasys0E7x3w0",
     "Db5xg0E7k580Dag040E8a2k0Db5xg0E7k580Db5xg0E7x3w0Dasys0E7x3w0Dasys0E7x3w0Db5xg0E7k580Db5x",
     "g0E7k580Db5xg0E7x3w0Dasys0E7x3w0Dasys0E7x3w0Dasys0E7x3w0Db5xg0E7k580Db5xg0E7k580Db5xg0E9",
     "cyk0D9d440E7x3w0Dasys0E7x3w0Db5xg0E7k580D9q2s0E8zzw0Db5xg0E7x3w0Dasys0E7x3w0Dasys0E7x3w0",
     "Dasys0E7x3w0Db5xg0E7k580Db5xg0E8n180Da31g0E7x3w0Da31g0E9px80D9q2s0E7x3w0Db5xg0E7k580Db5x",
     "g0E7k580Db5xg0E7k580Db5xg0E7x3w0Dasys0E7x3w0Dasys0E7x3w0Db5xg0E7k580Db5xg0E8n180Da31g0E7",
     "x3w0Dasys0E8zzw0D9q2s0East80D5eis0Ecyl80D6hes0Ec8nw0D6udg0Ebvp80D6udg0Evonw0D4olg0Ee1h80",
     "D4olg0Ee1h80D4olg0Ec8nw0D7x9g0East80D7x9g0East80D7x9g0East80D8a840Eafuk0D7x9g0Eb5rw0D7x9",
     "g0E"]⟩,
  ⟨"America/Cuiaba", [-13460, -14400, -10800], none,
    ["rqdrzpwB99k9y4C9a9c0B9io40C99980B8p65g0C6zuo0Bbs2o0C67zw0Bcjxg0C69uk0Bcjxg0C4ml80B5mf440",
     "C49mk0Bhaas0C316k0Bcls40C4ml80Bcls40C66580Bcls40C67zw0B981s40C6u7w0Bbiw40C5rbw0Bd0lg0C5e",
     "d80Bcyqs0C5ed80Bdbpg0C64ak0Bcyqs0C64ak0Bcls40C5rbw0Bdbpg0C51ek0Bdbpg0C6h980Bc8tg0C6h980B",
     "c8tg0C64ak0Bc8tg0C6u7w0Bbxpg0C7iak0Bbiw40C6u7w0Bbiw40C7k580Bbiw40C6u7w0Bc8tg0C6h980Bdbpg",
     "0C5ed80Bw5hg0C5nmk0Bc8tg0C6h980Bdbpg0C5rbw0Bbvus0C6h980Bcls40C64ak0Bcls40C6h980Bc8tg0C6h",
     "980Bc8tg0C6u7w0Bc8tg0C64ak0Bcls40C64ak0Bcls40C6h980Bc8tg0C6h980Bc8tg0C6h980Bc8tg0C6h980B",
     "dbpg0C5ed80B"]⟩,
  ⟨"America/Danmarkshavn", [-4480, -10800, -7200, 0], none,
    ["rrq2osgBx8nx3kC8zrk0B9d1c0C9d1c0B9d1c0C9d1c0B9d1c0C9d1c0B9d1c0C9q000B9d1c0C9d1c0B9d1c0C9",
     "d1c0B9d1c0C9d1c0B9d1c0C9d1c0B9d1c0C9d1c0B9d1c0C9q000B9d1c0C9d1c0B9d1c0C9d1c0B9d1c0C9d1c0",
     "B9d1c0C9d1c0B9d1c0C9d1c0B53hk0D"]⟩,
  ⟨"America/Dawson", [-33460, -32400, -28800, -25200], none,
    ["rjenohgB97l62kCa2vw0Basys0C882c0Bbmiwc0C1wd180Ba7n3w0D9q000B465k00C3e2is0D9cyk0C9d440D9c",
     "yk0C9d440D9px80C905g0D9px80C9d440D9cyk0C9d440D9cyk0C9d440D9cyk0C8a840Dafuk0C8a840Dast80C",
     "7x9g0Dast80C7x9g0Dast80C8a840Dafuk0C8a840Dafuk0C8a840Dast80C7x9g0Dast80C7x9g0Dast80C8a84",
     "0Dafuk0C8a840Dafuk0C8a840Dafuk0C8a840Dast80C7x9g0Dast80C7x9g0Dast80C8a840Dafuk0C8a840Daf",
     "uk0C8a840Dast80C7x9g0Dast80C7x9g0Dast80C6udg0Dc8nw0C6hes0Dc8nw0C6hes0Dc8nw0C6udg0Dc8nw0C",
     "6hes0Dc8nw0C6hes0Dc8nw0C6hes0Dc8nw0C6hes0Dc8nw0C6hes0Dc8nw0C6udg0Dc8nw0C6hes0Dc8nw0C6hes",
     "0Dc8nw0C6hes0Dc8nw0C6hes0D"]⟩,
  ⟨"America/Dawson_Creek", [-28856, -28800, -25200], none,
    ["raq5kxkBhw36ugCa2vw0Bc5jxg0C1wd180Btj1g0C7x3w0Basys0C7x3w0Basys0C7x3w0Bb5xg0C7k580Bb5xg0",
     "C7x3w0Basys0C7x3w0Basys0C7x3w0Basys0C7x3w0Basys0C7x3w0Bb5xg0C7x3w0Basys0C7x3w0Basys0C7x3",
     "w0Basys0C7x3w0Basys0C7x3w0Bb5xg0C7k580Bb5xg0C9cyk0B9d440C9cyk0B9d440C9cyk0B9d440C9px80B9",
     "05g0C9px80B9d440C9cyk0B9d440C9cyk0B9d440C9cyk0B9d440C9cyk0B9d440C9px80B9d440C"]⟩,
  ⟨"America/Denver", [-25196, -25200, -21600], some ⟨-25200, -21600, ⟨3, 2, 0, 7200⟩, ⟨11, 1, 0, 7200⟩⟩,
    ["ranwy40Bhxltk0Cast80B7x9g0Cast80B7x9g0Cb5rw0B7kas0C2vmk0Bataw40C1wd180Ba7n9g0C9px80B905g",
     "0C9px80B9d440C9cyk0B9d440C9cyk0B9d440C9cyk0B9d440C9cyk0B9d440C9px80B9d440C9cyk0B9d440C9c",
     "yk0B3lpg0Cf4d80B64g40Cclmk0B9d440C9px80B905g0C9px80B9d440C9cyk0B9d440C9cyk0B9d440C9cyk0B",
     "9d440C9cyk0B9d440C9px80B905g0C9px80B9d440C9cyk0B9d440C9cyk0B9d440C9cyk0B8a840Cafuk0B8a84",
     "0Cast80B7x9g0Cast80B7x9g0Cast80B8a840Cafuk0B8a840Cafuk0B8a840Cast80B7x9g0Cast80B7x9g0Cas",
     "t80B8a840Cafuk0B8a840Cafuk0B8a840Cafuk0B8a840Cast80B7x9g0Cast80B7x9g0Cast80B8a840Cafuk0B",
     "8a840Cafuk0B8a840Cast80B7x9g0Cast80B7x9g0Cast80B6udg0C"]⟩,
  ⟨"America/Detroit", [-19931, -21600, -18000, -14400], some ⟨-18000, -14400, ⟨3, 2, 0, 7200⟩, ⟨11, 1, 0, 7200⟩⟩,
    ["rlop3dnB5eraudCdyeyk0D1wd180C1c9440D7x3w0C9rlbxoD71s2cC9d440D9cyk0C2cmdg0D9cyk0C3lpg0Df4",
     "d80C9d440D9cyk0C9d440D9px80C905g0D9px80C9d440D9cyk0C9d440D9cyk0C9d440D9cyk0C9d440D9cyk0C",
     "9d440D9px80C905g0D9px80C9d440D9cyk0C9d440D9cyk0C9d440D9cyk0C8a840Dafuk0C8a840Dast80C7x9g",
     "0Dast80C7x9g0Dast80C8a840Dafuk0C8a840Dafuk0C8a840Dast80C7x9g0Dast80C7x9g0Dast80C8a840Daf",
     "uk0C8a840Dafuk0C8a840Dafuk0C8a840Dast80C7x9g0Dast80C7x9g0Dast80C8a840Dafuk0C8a840Dafuk0C",
     "8a840Dast80C7x9g0Dast80C7x9g0Dast80C6udg0D"]⟩,
  ⟨"America/Edmonton", [-27232, -25200, -21600], some ⟨-25200, -21600, ⟨3, 2, 0, 7200⟩, ⟨11, 1, 0, 7200⟩⟩,
    ["rmjz6cgB629inkCa2vw0B8n6s0C29ek0Bh6lg0C9px80B905g0C7x3w0Bb5xg0C7k580Bb5xg0C7x3w0B9l0g40C",
     "1wd180Btj1g0C7x3w0Bctzk40C9cyk0B9d440C9cyk0B9d440C9cyk0B9d440C9cyk0B9d440C9px80B905g0C9p",
     "x80B9d440C9cyk0B9d440C9cyk0B9d440C9cyk0B9d440C9cyk0B9d440C9px80B905g0C9px80B9d440C9cyk0B",
     "9d440C9cyk0B9d440C9cyk0B8a840Cafuk0B8a840Cast80B7x9g0Cast80B7x9g0Cast80B8a840Cafuk0B8a84",
     "0Cafuk0B8a840Cast80B7x9g0Cast80B7x9g0Cast80B8a840Cafuk0B8a840Cafuk0B8a840Cafuk0B8a840Cas",
     "t80B7x9g0Cast80B7x9g0Cast80B8a840Cafuk0B8a840Cafuk0B8a840Cast80B7x9g0Cast80B7x9g0Cast80B",
     "6udg0C"]⟩,
  ⟨"America/Eirunepe", [-16768, -18000, -14400], none,
    ["rqds29sB99ka68C9a9c0B9io40C99980B8p65g0C6zuo0Bbs2o0C67zw0Bcjxg0C69uk0Bcjxg0C4ml80B5mf440",
     "C49mk0Bhaas0C316k0Bcls40C4ml80Bcls40C66580Bcls40C67zw0B981s40C6u7w0Bbiw40C5rbw0Bd0lg0C5e",
     "d80B2yy2s0C6h980B7hg2s0C2t2t80B"]⟩,
  ⟨"America/El_Salvador", [-21408, -21600, -18000], none,
    ["ru1bcioBymao5cC7k580Bb5xg0C7k580B"]⟩,
  ⟨"America/Fort_Nelson", [-29447, -28800, -25200], none,
    ["raq5ldzBhw36e1Ca2vw0Bc5jxg0C1wd180Btj1g0C7x3w0Basys0C7x3w0Basys0C7x3w0Bb5xg0C7k580Bb5xg0",
     "C7x3w0Basys0C7x3w0Basys0C7x3w0Basys0C7x3w0Basys0C7x3w0Bb5xg0C7x3w0Basys0C7x3w0Basys0C7x3",
     "w0Basys0C7x3w0Basys0C7x3w0Bb5xg0C7k580Bb5xg0C9cyk0B9d440C9cyk0B9d440C9cyk0B9d440C9px80B9",
     "05g0C9px80B9d440C9cyk0B9d440C9cyk0B9d440C9cyk0B9d440C9cyk0B9d440C9px80B9d440C9cyk0B9d440",
     "C9cyk0B9d440C9cyk0B9d440C9cyk0B9d440C9px80B905g0C9px80B9d440C9cyk0B9d440C9cyk0B9d440C9cy",
     "k0B9d440C9cyk0B9d440C9px80B905g0C9px80B9d440C9cyk0B9d440C9cyk0B9d440C9cyk0B8a840Cafuk0B8",
     "a840Cast80B7x9g0Cast80B7x9g0Cast80B8a840Cafuk0B8a840Cafuk0B8a840Cast80B7x9g0Cast80B7x9g0",
     "Cast80B8a840Cafuk0B8a840Cafuk0B8a840Cafuk0B8a840Cast80B7x9g0Cast80B7x9g0Cast80B8a840Cafu",
     "k0B8a840Cafuk0B8a840Cast80B7x9g0Cast80B7x9g0Cast80B6udg0Cc8nw0B6hes0Cc8nw0B6hes0Cc8nw0B6",
     "udg0Cc8nw0B6hes0Cc8nw0B6hes0Cc8nw0B6hes0Cc8nw0B6hes0Cc8nw0B6hes0C"]⟩,
  ⟨"America/Fortaleza", [-9240, -10800, -7200], none,
    ["rqdrwgoB99kafcC9a9c0B9io40C99980B8p65g0C6zuo0Bbs2o0C67zw0Bcjxg0C69uk0Bcjxg0C4ml80B5mf440",
     "C49mk0Bhaas0C316k0Bcls40C4ml80Bcls40C66580Bcls40C67zw0B981s40C6u7w0Bbiw40C5rbw0Bd0lg0C5e",
     "d80Bcyqs0C5ed80Bdbpg0C64ak0B514g40C7k580Bbiw40Cpuk0Bid6s0C6h980B"]⟩]

end RelationalSearch.ZoneTable
