import RelationalSearch.Calendar.Zone

/-!
# Zones of Australia, the oceans and the poles

Rows of the time zone database; `ZoneRow` says how they are read.
-/

namespace RelationalSearch.ZoneTable

/-- Zones of Australia, the oceans and the poles. -/
def oceans : List ZoneRow :=
 [⟨"Antarctica/Casey", [0, 28800, 39600], none,
    ["sj35k00Blag4o0C73bo0Buz1o0C60l80B2fnh80Cpz9g0Bat4c0C89u80Bacgc0C80no0Basw1oC89wycBag5poC",
     "89wycBag5poC84lacB"]⟩,
  ⟨"Antarctica/Davis", [0, 25200, 18000], none,
    ["scub400B42jdw0A27wgs0Bl8uss0C7eqs0Bunmk0C60qs0B"]⟩,
  ⟨"Antarctica/Macquarie", [0, 36000, 39600], some ⟨36000, 39600, ⟨10, 1, 0, 7200⟩, ⟨4, 1, 0, 10800⟩⟩,
    ["rizm800B8ts4g0C902o0B11wns0Af4kh40Ba6p8g0C9d1c0Basw00C6uao0Bbvs00C6uao0Bbvs00C779c0Bbvs0",
     "0C64dc0Bclpc0C6hc00Bc8qo0C6hc00Bc8qo0C6hc00Bc8qo0C6uao0Bc8qo0C6hc00Bc8qo0C6hc00Bc8qo0C6h",
     "c00Bc8qo0C6hc00Bc8qo0C6hc00Bc8qo0C7x6o0Bb5uo0C7k800Bb5uo0C6hc00Bc8qo0C6hc00Bc8qo0C6hc00B",
     "bvs00C7k800Bbitc0C7k800Bbitc0C779c0Bbitc0C779c0Bbitc0C7x6o0B9q000C902o0B9q000C902o0B9q00",
     "0C902o0B9q000C902o0B9q000C9d1c0B9q000C902o0B9q000C902o0B9q000C902o0B9q000C902o0B7x6o0Cas",
     "w00Ba2yo0C902o0B9q000C902o0B9q000C902o0B9q000C902o0B9q000C9d1c0B9d1c0C902o0Ba2yo0C9d1c0B",
     "9d1c0C9d1c0B9d1c0Cs3400B"]⟩,
  ⟨"Antarctica/Mawson", [0, 21600, 18000], none,
    ["sbbiw00Bt22y80C"]⟩,
  ⟨"Antarctica/Palmer", [0, -10800, -14400, -7200], none,
    ["sh00000B31ho0Cbqas0B71mk0Cbqas0B8ovw0C9d440B9px80C9d440B9cyk0C9d440B28t6k0D51ek0B46b6s0C",
     "8c2s0B7x3w0Casys0B7x3w0Cb5xg0B7k580Cb5xg0B7k580Cb5xg0B9cyk0C9d440B7x3w0Casys0B7x3w0Cb5xg",
     "0B7k580C9q2s0B8zzw0Cb5xg0B7x3w0Casys0B7x3w0Casys0B7x3w0Casys0B7x3w0Cb5xg0B7k580Cb5xg0B8n",
     "180Ca31g0B7x3w0Ca31g0B9px80C9q2s0B7x3w0Cb5xg0B7k580Cb5xg0B7k580Cb5xg0B7k580Cb5xg0B7x3w0C",
     "asys0B7x3w0Casys0B7x3w0Cb5xg0B7k580Cb5xg0B8n180Ca31g0B7x3w0Casys0B8zzw0C9q2s0Bast80C5eis",
     "0Bcyl80C6hes0Bc8nw0C6udg0Bbvp80C6udg0Bvonw0C4olg0B"]⟩,
  ⟨"Antarctica/Rothera", [0, -10800], none,
    ["sn7v9c0B"]⟩,
  ⟨"Antarctica/Troll", [0, 7200], some ⟨0, 7200, ⟨3, 5, 0, 3600⟩, ⟨10, 5, 0, 10800⟩⟩,
    ["t1zx1g0B"]⟩,
  ⟨"Antarctica/Vostok", [0, 25200, 18000], none,
    ["sdbn6o0Biushw0Ae23g0Bf79gs0C"]⟩,
  ⟨"Atlantic/Azores", [-6160, -6872, -7200, -3600, 0, 3600], some ⟨-3600, 0, ⟨3, 5, 0, 0⟩, ⟨10, 5, 0, 3600⟩⟩,
    ["raq53f4Bem124wC2bufw0D6zxg0C66800Dbq580C71s40Dbq580C71s40Dbq580C73ms0Dbq580C71s40Dbq580C",
     "1b2g00D8so00Cst1c0D8n400C9q000D902o0Ca2yo0D902o0Ca2yo0D8n400Cst1c0D8n400C9d1c0D9d1c0Csg2",
     "o0D9d1c0C902o0D9q000Ca2yo0D8n400C9d1c0D9d1c0C902o0D9q000Ca2yo0Db5uo0C51hc0Dbmio0C99c00D9",
     "ew00C88ao0D25p80E5reo0D3lpg0C779c0D1sqk0E6uao0D38qs0C6uao0D25p80E6hc00D38qs0C6uao0D25p80",
     "E6hc00D38qs0C8a5c0D9d1c0C9d9o0D9d1c0C9d1c0D9d1c0C9d1c0D9d1c0C9d1c0D9d1c0C9d1c0D9q000C9d1",
     "c0D9d1c0C9d1c0D9d1c0C9d1c0D9d1c0C9d1c0D9d1c0C9d1c0D9q000C9d1c0D9d1c0C9d1c0D9d1c0C9d1c0D9",
     "d1c0C9d1c0D9d1c0C9d1c0D9d1c0C9d1c0D9q000C9d1c0D9d1c0C9d1c0D9d1c0C9d1c0D9d1c0C9d1c0D8cavo",
     "0E9d1c0D9d1c0E9d1c0D9d1c0E9q000D9d1c0E9d1c0D9d1c0E9d1c0D9d1c0E9d1c0D9d1c0E9d1c0D9d1c0E9d",
     "1c0D9d1c0E9q000D9d1c0E9d1c0D9d1c0E9d1c0D4olg0E4ofw0F46000E571c0D9d1c0E9d1c0D9d1c0E9d1c0D",
     "9q000E"]⟩,
  ⟨"Atlantic/Bermuda", [-15558, -11958, -14400, -10800], some ⟨-14400, -10800, ⟨3, 2, 0, 7200⟩, ⟨11, 1, 0, 7200⟩⟩,
    ["rs31lc6B95jw0Aa16s0B7yyk0A5w74c0C69z5ruDeefw0C7x9g0Dbiqk0C6udg0Dc8nw0C6hes0Dc8nw0Cst440D",
     "64ak0Ccyqs0D5ed80Cdbpg0D5ed80Cdoo40D51ek0Cdoo40D51ek0Cdoo40D5ed80C1xuw40D7x3w0C94r9g0D9c",
     "yk0C9d440D9cyk0C9d440D9px80C905g0D9px80C9d440D9cyk0C9d440D9cyk0C9d440D9cyk0C9d440D9cyk0C",
     "9d440D9px80C905g0D9px80C9d440D9cyk0C9d440D9cyk0C9d440D9cyk0C8a840Dafuk0C8a840Dast80C7x9g",
     "0Dast80C7x9g0Dast80C8a840Dafuk0C8a840Dafuk0C8a840Dast80C7x9g0Dast80C7x9g0Dast80C8a840Daf",
     "uk0C8a840Dafuk0C8a840Dafuk0C8a840Dast80C7x9g0Dast80C7x9g0Dast80C8a840Dafuk0C8a840Dafuk0C",
     "8a840Dast80C7x9g0Dast80C7x9g0Dast80C6udg0D"]⟩,
  ⟨"Atlantic/Canary", [-3696, -3600, 0, 3600], some ⟨0, 3600, ⟨3, 5, 0, 3600⟩, ⟨10, 5, 0, 7200⟩⟩,
    ["run45ioBctvupcChhq7s0D905g0C9d1c0D9d1c0C9d1c0D9d1c0C9d1c0D9d1c0C9d1c0D9q000C9d1c0D9d1c0C",
     "9d1c0D9d1c0C9d1c0D9d1c0C9d1c0D9d1c0C9d1c0D9d1c0C9d1c0D9q000C9d1c0D9d1c0C9d1c0D9d1c0C9d1c",
     "0D9d1c0C9d1c0D9d1c0C9d1c0D9d1c0C9q000D"]⟩,
  ⟨"Atlantic/Cape_Verde", [-5644, -7200, -3600], none,
    ["rpc65k0Bg06lc0C1mn180Bfpqwc0C"]⟩,
  ⟨"Atlantic/Faroe", [-1624, 0, 3600], some ⟨0, 3600, ⟨3, 5, 0, 3600⟩, ⟨10, 5, 0, 7200⟩⟩,
    ["rn9izx4B127keuwC9d1c0B9d1c0C9d1c0B9d1c0C9d1c0B9d1c0C9q000B9d1c0C9d1c0B9d1c0C9d1c0B9d1c0C",
     "9d1c0B9d1c0C9d1c0B9d1c0C9d1c0B9d1c0C9q000B9d1c0C9d1c0B9d1c0C9d1c0B9d1c0C9d1c0B9d1c0C9d1c",
     "0B9d1c0C9d1c0B9q000C"]⟩,
  ⟨"Atlantic/Madeira", [-4056, -3600, 0, 3600], some ⟨0, 3600, ⟨3, 5, 0, 3600⟩, ⟨10, 5, 0, 7200⟩⟩,
    ["rpc62s0B2bufw0C6zxg0B66800Cbq580B71s40Cbq580B71s40Cbq580B73ms0Cbq580B71s40Cbq580B1b2g00C",
     "8so00Bst1c0C8n400B9q000C902o0Ba2yo0C902o0Ba2yo0C8n400Bst1c0C8n400B9d1c0C9d1c0Bsg2o0C9d1c",
     "0B902o0C9q000Ba2yo0C8n400B9d1c0C9d1c0B902o0C9q000Ba2yo0Cb5uo0B51hc0Cbmio0B99c00C9ew00B88",
     "ao0C25p80D5reo0C3lpg0B779c0C1sqk0D6uao0C38qs0B6uao0C25p80D6hc00C38qs0B6uao0C25p80D6hc00C",
     "38qs0B8a5c0C9d1c0B9d9o0C9d1c0B9d1c0C9d1c0B9d1c0C9d1c0B9d1c0C9d1c0B9d1c0C9q000B9d1c0C9d1c",
     "0B9d1c0C9d1c0B9d1c0C9d1c0B9d1c0C9d1c0B9d1c0C9q000B9d1c0C9d1c0B9d1c0C9d1c0B9d1c0C9d1c0B9d",
     "1c0C9d1c0B9d1c0C9d1c0B9d1c0C9q000B9d1c0C9d1c0B9d1c0C9d1c0B9d1c0C9d1c0B9d1c0C8cnuc0D902o0",
     "C9d1c0D9d1c0C9d1c0D9q000C9d1c0D9d1c0C9d1c0D9d440C9d1c0D9d1c0C9d1c0D9d1c0C9d1c0D9d1c0C9d1",
     "c0D9q000C9d1c0D9d1c0C9d1c0D9d1c0C9d1c0D9d1c0C9d1c0D9d1c0C9d1c0D9d1c0C9q000D"]⟩,
  ⟨"Atlantic/South_Georgia", [-8768, -7200], none,
    ["rduwerkB"]⟩,
  ⟨"Atlantic/Stanley", [-13884, -14400, -10800, -7200], none,
    ["rpfts1oBdbvxqcC8zzw0B9q2s0C8zzw0Ba31g0C8zzw0B9q2s0C8zzw0B9q2s0C8zzw0B9q2s0C4xp80Bl1pus0C",
     "7k580Db5rw0C77c40Dbiqk0Cid6s0B7kas0Cb5rw0B7kas0Cb5rw0B7kas0Cb5rw0B7kas0Cbiqk0B77c40Cbiqk",
     "0B7kas0Cb5rw0B7kas0Cb5rw0B7kas0Cb5rw0B7kas0Cb5rw0B7kas0Cbiqk0B7kas0Cb5rw0B7kas0Cb5rw0B7k",
     "as0Cb5rw0B7kas0Cb5rw0B7kas0Cb5xg0B77c40Cbvp80B6udg0Cbvp80B77c40Cbiqk0B77c40Cbiqk0B77c40C",
     "biqk0B77c40Cbiqk0B77c40Cbvp80B77c40Cbiqk0B77c40Cbiqk0B77c40C"]⟩,
  ⟨"Australia/Adelaide", [33260, 32400, 34200, 37800], some ⟨34200, 37800, ⟨10, 1, 0, 7200⟩, ⟨4, 1, 0, 10800⟩⟩,
    ["rgieec4B27qdzwC97zyu0D49pc0Ccxfk00D4h400C9d1c0D9d1c0C9q000D902o0Ceeio00D64dc0Cclpc0D6hc0",
     "0Cc8qo0D6hc00Cc8qo0D6hc00Cc8qo0D6uao0Cc8qo0D6hc00Cc8qo0D6hc00Cc8qo0D6hc00Cc8qo0D6hc00Cc8",
     "qo0D6hc00Cc8qo0D6uao0Cc8qo0D6hc00Cc8qo0D6hc00Cc8qo0D6hc00Cc8qo0D779c0Cb5uo0D7k800Cbitc0D",
     "7k800Cbitc0D779c0Cbitc0D779c0Cbitc0D6hc00Cc8qo0D7k800Cb5uo0D6uao0Cc8qo0D779c0Cbitc0D7k80",
     "0Cb5uo0D7x6o0Casw00D7x6o0Casw00D7x6o0Casw00D7x6o0Cb5uo0D7k800Cb5uo0D7k800Cb5uo0D7x6o0Cas",
     "w00D7x6o0Casw00D7x6o0Cb5uo0D7k800Cb5uo0D7x6o0Casw00D7k800Cb5uo0D"]⟩,
  ⟨"Australia/Brisbane", [36728, 36000, 39600], none,
    ["rggswzsBbhbss8C49pc0Bcxfk00C4h400B9d1c0C9d1c0B9q000C902o0Beeio00C64dc0B97zuo0C6hc00Bc8qo",
     "0C6hc00Bc8qo0C6hc00B"]⟩,
  ⟨"Australia/Broken_Hill", [33948, 36000, 32400, 34200, 37800], some ⟨34200, 37800, ⟨10, 1, 0, 7200⟩, ⟨4, 1, 0, 10800⟩⟩,
    ["rgiedt0Bt9nr0C1egqs0D97zyu0E49pc0Dcxfk00E4h400D9d1c0E9d1c0D9q000E902o0Deeio00E64dc0Dclpc",
     "0E6hc00Dc8qo0E6hc00Dc8qo0E6hc00Dc8qo0E6uao0Dc8qo0E6hc00Dc8qo0E6hc00Dc8qo0E6hc00Dc8qo0E6h",
     "c00Dc8qo0E6hc00Dc8qo0E8a5c0Dasw00E6hc00Dc8qo0E6hc00Dc8qo0E6hc00Dc8qo0E779c0Db5uo0E7k800D",
     "bitc0E7k800Dbitc0E779c0Dbitc0E6hc00Dc8qo0E6hc00Dc8qo0E6hc00Dc8qo0E6uao0Dc8qo0E6hc00Dc8qo",
     "0E6hc00Dc8qo0E7x6o0Dasw00E7x6o0Dasw00E7x6o0Dasw00E7x6o0Db5uo0E7k800Db5uo0E7k800Db5uo0E7x",
     "6o0Dasw00E7x6o0Dasw00E7x6o0Db5uo0E7k800Db5uo0E7x6o0Dasw00E7k800Db5uo0E"]⟩,
  ⟨"Australia/Darwin", [31400, 32400, 34200, 37800], none,
    ["rgiefrsB27qck8C97zyu0D49pc0Ccxfk00D4h400C9d1c0D9d1c0C9q000D902o0C"]⟩,
  ⟨"Australia/Eucla", [30928, 31500, 35100], none,
    ["rgxzk4wBb05944C49pc0Bcxfk00C4h400B9d1c0C9d1c0Bgheyo0C6hc00B4ir9c0C6hc00B40r400C5eg00B7p9",
     "hc0C5reo0Bb5uo0C7x6o0Basw00C7x6o0B"]⟩,
  ⟨"Australia/Hobart", [35356, 36000, 39600], some ⟨36000, 39600, ⟨10, 1, 0, 7200⟩, ⟨4, 1, 0, 10800⟩⟩,
    ["rgtay1wBb03ee4C902o0Bb5uo0C6hc00Bc8qo0C6hc00Bbx2ao0C4h400B9d1c0C9d1c0B9q000C902o0Bc9tk00",
     "C9d1c0Basw00C6uao0Bbvs00C6uao0Bbvs00C779c0Bbvs00C64dc0Bclpc0C6hc00Bc8qo0C6hc00Bc8qo0C6hc",
     "00Bc8qo0C6uao0Bc8qo0C6hc00Bc8qo0C6hc00Bc8qo0C6hc00Bc8qo0C6hc00Bc8qo0C6hc00Bc8qo0C7x6o0Bb",
     "5uo0C7k800Bb5uo0C6hc00Bc8qo0C6hc00Bc8qo0C6hc00Bbvs00C7k800Bbitc0C7k800Bbitc0C779c0Bbitc0",
     "C779c0Bbitc0C7x6o0B9q000C902o0B9q000C902o0B9q000C902o0B9q000C902o0B9q000C9d1c0B9q000C902",
     "o0B9q000C902o0B9q000C902o0B9q000C902o0B7x6o0Casw00Ba2yo0C902o0B9q000C902o0B9q000C902o0B9",
     "q000C902o0B9q000C9d1c0B9d1c0C902o0Ba2yo0C"]⟩,
  ⟨"Australia/Lindeman", [35756, 36000, 39600], none,
    ["rggsxqsBbhbs18C49pc0Bcxfk00C4h400B9d1c0C9d1c0B9q000C902o0Beeio00C64dc0B97zuo0C6hc00Bc8qo",
     "0C6hc00Bc8qo0C6hc00Bc8qo0C6uao0Bc8qo0C6hc00B"]⟩,
  ⟨"Australia/Lord_Howe", [38180, 36000, 37800, 41400, 39600], some ⟨37800, 39600, ⟨10, 1, 0, 7200⟩, ⟨4, 1, 0, 7200⟩⟩,
    ["rgieajgB18x8f0kCc8uu0D6u7w0Cc8tg0D6h980Cc8tg0D6h980Cc8tg0D6h980Cc8tg0E777y0Cb5w20E7k6m0C",
     "biuq0E7k6m0Cbiuq0E777y0Cbiuq0E6ham0Cc8s20E6ham0Cc8s20E6ham0Cc8s20E6u9a0Cc8s20E6ham0Cc8s2",
     "0E6ham0Cc8s20E7x5a0Casxe0E7x5a0Casxe0E7x5a0Casxe0E7x5a0Cb5w20E7k6m0C7x820Easum0Cb5w20E7x",
     "5a0Casxe0E7x5a0Casxe0E7x5a0Cb5w20E7k6m0Cb5w20E7x5a0Casxe0E7k6m0Cb5w20E"]⟩,
  ⟨"Australia/Melbourne", [34792, 36000, 39600], some ⟨36000, 39600, ⟨10, 1, 0, 7200⟩, ⟨4, 1, 0, 10800⟩⟩,
    ["rgied5kBbfqcmgC49pc0Bcxfk00C4h400B9d1c0C9d1c0B9q000C902o0Beeio00C64dc0Bclpc0C6hc00Bc8qo0",
     "C6hc00Bc8qo0C6hc00Bc8qo0C6uao0Bc8qo0C6hc00Bc8qo0C6hc00Bc8qo0C6hc00Bc8qo0C6hc00Bc8qo0C6hc",
     "00Bc8qo0C6uao0Bc8qo0C6hc00Bc8qo0C6hc00Bc8qo0C6hc00Bc8qo0C779c0Bb5uo0C7k800Bb5uo0C7x6o0Bb",
     "itc0C779c0Bbitc0C779c0Bbitc0C6hc00Bc8qo0C6hc00Bc8qo0C6uao0Bc8qo0C6hc00Bc8qo0C7k800Bb5uo0",
     "C7x6o0Basw00C7x6o0Basw00C7x6o0Basw00C7x6o0Bb5uo0C7k800B7x6o0Casw00Bb5uo0C7x6o0Basw00C7x6",
     "o0Basw00C7x6o0Bb5uo0C7k800Bb5uo0C7x6o0Basw00C7k800Bb5uo0C"]⟩,
  ⟨"Australia/Perth", [27804, 28800, 32400], none,
    ["rgxzmjoBb058scC49pc0Bcxfk00C4h400B9d1c0C9d1c0Bgheyo0C6hc00B4ir9c0C6hc00B40r400C5eg00B7p9",
     "hc0C5reo0Bb5uo0C7x6o0Basw00C7x6o0B"]⟩,
  ⟨"Australia/Sydney", [36292, 36000, 39600], some ⟨36000, 39600, ⟨10, 1, 0, 7200⟩, ⟨4, 1, 0, 10800⟩⟩,
    ["rgiebzwBbfqds4C49pc0Bcxfk00C4h400B9d1c0C9d1c0B9q000C902o0Beeio00C64dc0Bclpc0C6hc00Bc8qo0",
     "C6hc00Bc8qo0C6hc00Bc8qo0C6uao0Bc8qo0C6hc00Bc8qo0C6hc00Bc8qo0C6hc00Bc8qo0C6hc00Bc8qo0C6hc",
     "00Bc8qo0C8a5c0Basw00C6hc00Bc8qo0C6hc00Bc8qo0C6hc00Bc8qo0C779c0Bb5uo0C7k800Bbitc0C7k800Bb",
     "itc0C779c0Bbitc0C6hc00Bc8qo0C6hc00Bc8qo0C6hc00Bc8qo0C6uao0Bc8qo0C6hc00Bc8qo0C6hc00Bc8qo0",
     "C7x6o0Basw00C7x6o0Basw00C7x6o0Basw00C7x6o0Bb5uo0C7k800B7x6o0Casw00Bb5uo0C7x6o0Basw00C7x6",
     "o0Basw00C7x6o0Bb5uo0C7k800Bb5uo0C7x6o0Basw00C7k800Bb5uo0C"]⟩,
  ⟨"Indian/Chagos", [17380, 18000, 21600], none,
    ["rmq8598B1ag64usC"]⟩,
  ⟨"Indian/Maldives", [17640, 18000], none,
    ["see0ae0B"]⟩,
  ⟨"Indian/Mauritius", [13800, 14400, 18000], none,
    ["rmq880oB13jnu7cC8bx80Bdd0wc0C7x3w0B"]⟩,
  ⟨"Pacific/Apia", [45184, -41216, -41400, -39600, -36000, 50400, 46800], none,
    ["rf5zjswB9nfeo0Ckcrmt4Dvp3la0E9odo0D902o0E4zbk0F4qog0G9d1c0F9q000G902o0F9q000G902o0F9q000",
     "G902o0F9q000G902o0F9q000G902o0F9q000G9d1c0F9q000G902o0F9q000G902o0F9q000G"]⟩,
  ⟨"Pacific/Auckland", [41944, 41400, 45000, 43200, 46800], some ⟨43200, 46800, ⟨9, 5, 0, 7200⟩, ⟨4, 1, 0, 10800⟩⟩,
    ["r2t8iawBusn9z4C64ak0Bbiw40D7x5a0Basxe0D7x5a0Basxe0D7x5a0Basxe0D8a3y0Bafyq0D8a3y0Bafyq0Da",
     "fvy0B7x820Dasum0B7x820Dasum0B7x820Dasum0B7x820Dasum0B7x820Db5ta0B7k9e0Db5ta0B7x820Dhsl2m",
     "0E5reo0Dclpc0E6uao0Dc8qo0E6hc00Dc8qo0E6hc00Dc8qo0E6hc00Dc8qo0E6hc00Dc8qo0E6hc00Dc8qo0E6u",
     "ao0Dc8qo0E6hc00Dc8qo0E6hc00Dc8qo0E6hc00Dc8qo0E6hc00Dc8qo0E6hc00Dc8qo0E6uao0Dc8qo0E6hc00D",
     "b5uo0E8a5c0Dafxc0E8a5c0Dafxc0E8a5c0Dafxc0E8n400Da2yo0E8n400Da2yo0E8n400Da2yo0E8n400Dafxc",
     "0E8a5c0Dafxc0E8a5c0Dafxc0E8n400Da2yo0E8n400Da2yo0E8n400Dafxc0E8a5c0Dafxc0E8a5c0Dafxc0E8n",
     "400Da2yo0E8n400Da2yo0E8n400Da2yo0E8n400Da2yo0E"]⟩,
  ⟨"Pacific/Bougainville", [37336, 35312, 36000, 32400, 39600], none,
    ["r8myluwB7tuc88Cosc24wD1n05g0C1071c40E"]⟩,
  ⟨"Pacific/Chatham", [44028, 44100, 45900, 49500], some ⟨45900, 49500, ⟨9, 5, 0, 9900⟩, ⟨4, 1, 0, 13500⟩⟩,
    ["r2t8gp0B149qqm0Cf1tq90D5reo0Cclpc0D6uao0Cc8qo0D6hc00Cc8qo0D6hc00Cc8qo0D6hc00Cc8qo0D6hc00",
     "Cc8qo0D6hc00Cc8qo0D6uao0Cc8qo0D6hc00Cc8qo0D6hc00Cc8qo0D6hc00Cc8qo0D6hc00Cc8qo0D6hc00Cc8q",
     "o0D6uao0Cc8qo0D6hc00Cb5uo0D8a5c0Cafxc0D8a5c0Cafxc0D8a5c0Cafxc0D8n400Ca2yo0D8n400Ca2yo0D8",
     "n400Ca2yo0D8n400Cafxc0D8a5c0Cafxc0D8a5c0Cafxc0D8n400Ca2yo0D8n400Ca2yo0D8n400Cafxc0D8a5c0",
     "Cafxc0D8a5c0Cafxc0D8n400Ca2yo0D8n400Ca2yo0D8n400Ca2yo0D8n400Ca2yo0D"]⟩,
  ⟨"Pacific/Easter", [-26248, -25200, -21600, -18000], some ⟨-21600, -18000, ⟨9, 1, 6, 79200⟩, ⟨4, 1, 6, 79200⟩⟩,
    ["s04i6x4BivmeuwC7k580Bc8tg0C6h980Ba31g0C7x3w0Basys0C7x3w0Bb5xg0C7k580Bag040C8a2k0Bb5xg0C7",
     "k580Bb5xg0C7x3w0Basys0C7x3w0Basys0C7x3w0Bb5xg0C7k580Bb5xg0C7k580Bb5xg0C7x3w0Basys0Ciq2o0",
     "D7x3w0Casys0D7x3w0Cb5xg0D7k580Cb5xg0D7k580Cb5xg0D9cyk0C9d440D7x3w0Casys0D7x3w0Cb5xg0D7k5",
     "80C9q2s0D8zzw0Cb5xg0D7x3w0Casys0D7x3w0Casys0D7x3w0Casys0D7x3w0Cb5xg0D7k580Cb5xg0D8n180Ca",
     "31g0D7x3w0Ca31g0D9px80C9q2s0D7x3w0Cb5xg0D7k580Cb5xg0D7k580Cb5xg0D7k580Cb5xg0D7x3w0Casys0",
     "D7x3w0Casys0D7x3w0Cb5xg0D7k580Cb5xg0D8n180Ca31g0D7x3w0Casys0D8zzw0C9q2s0Dast80C5eis0Dcyl",
     "80C6hes0Dc8nw0C6udg0Dbvp80C6udg0Dvonw0C4olg0De1h80C4olg0De1h80C4olg0Dc8nw0C7x9g0Dast80C7",
     "x9g0Dast80C7x9g0Dast80C8a840D"]⟩,
  ⟨"Pacific/Efate", [40396, 39600, 43200], none,
    ["rpcrctwBwbu364C51hc0B4y8qs0C9cyk0B9d440C9cyk0B9q2s0C8zzw0B9q2s0C9cyk0B9d440C9cyk0B9d440C",
     "9cyk0B9d440C9cyk0B9d440C9cyk0B9q2s0C64ak0Be1ms0C4ofw0B"]⟩,
  ⟨"Pacific/Fakaofo", [-41096, -39600, 46800], none,
    ["rjljzpkB1lxe1igC"]⟩,
  ⟨"Pacific/Fiji", [42944, 43200, 46800], none,
    ["rrbuk74B17bs00wC64dc0Bcyo00C5reo0B53a5c0C64dc0Basw00C6uao0Bbvs00C4oio0Be1k00C4oio0Beeio0",
     "C4bh80Berk40C3ylc0Berhc0C3ylc0Bf4g00C3lmo0Bf4g00C3lmo0Bf4g00C3lmo0Bfheo0C38o00Bhn6o0C1fu",
     "o0B"]⟩,
  ⟨"Pacific/Galapagos", [-21504, -18000, -21600], none,
    ["rz96b9cBspdryoC3lsas0B3jp80C"]⟩,
  ⟨"Pacific/Gambier", [-32388, -32400], none,
    ["rpqa3noB"]⟩,
  ⟨"Pacific/Guadalcanal", [38388, 39600], none,
    ["rpq8l1oB"]⟩,
  ⟨"Pacific/Guam", [-51660, 34740, 36000, 32400, 39600], none,
    ["qqdefv0Bt83xc0Cld6pp0D1dl9g0C7s1k40Etxp80C3frms0EqdrpoC7kgacE3ljw0Cc8tg0E6u7w0Cbvus0E6u7",
     "w0C16uo40E3ljw0C16aas0E4ivxoCcls2cE6h980C"]⟩,
  ⟨"Pacific/Honolulu", [-37886, -37800, -34200, -36000], none,
    ["rh09l8eBjgnatmC13l00B4jvb00C1wd180Bvotg0D"]⟩,
  ⟨"Pacific/Kanton", [0, -43200, -39600, 46800], none,
    ["s2qd9c0Blypqo0C7yiqk0D"]⟩,
  ⟨"Pacific/Kiritimati", [-37760, -38400, -36000, 50400], none,
    ["rjljx4wB153iz5sC7yirhcD"]⟩,
  ⟨"Pacific/Kosrae", [-47284, 39116, 39600, 32400, 36000, 43200], none,
    ["qqdechgBt83xc0C76a4ykD29hhk0C9cmd40E27sas0D29fk40Ccm2540Ff9l3w0C"]⟩,
  ⟨"Pacific/Kwajalein", [40160, 39600, 36000, 32400, -43200, 43200], none,
    ["rjli90gBise0fkC27sas0D1hjus0Bddxug0Ecgv6k0F"]⟩,
  ⟨"Pacific/Marquesas", [-33480, -34200], none,
    ["rpqa4i0B"]⟩,
  ⟨"Pacific/Nauru", [40060, 41400, 32400, 43200], none,
    ["ru1zyf8Bba66ysC1kwca0Bhfzda0D"]⟩,
  ⟨"Pacific/Niue", [-40780, -40800, -39600], none,
    ["samlm4sB63yiokC"]⟩,
  ⟨"Pacific/Norfolk", [40312, 40320, 41400, 45000, 39600, 43200], some ⟨39600, 43200, ⟨10, 1, 0, 7200⟩, ⟨4, 1, 0, 10800⟩⟩,
    ["rjli8w8Bq3einsCcfj8q0D6hc00Cl6nk00E239aq0F"]⟩,
  ⟨"Pacific/Noumea", [39948, 39600, 43200], none,
    ["rpcrd6cBye0ixoC4dbw0Becqs0C4f6k0B99p700C4oio0B"]⟩,
  ⟨"Pacific/Pago_Pago", [45432, -40968, -39600], none,
    ["rf5zjm0B9nfeo0C"]⟩,
  ⟨"Pacific/Palau", [-54124, 32276, 32400], none,
    ["qqdehrgBt83xc0C"]⟩,
  ⟨"Pacific/Pitcairn", [-31220, -30600, -28800], none,
    ["rjljs38B1esg26sC"]⟩,
  ⟨"Pacific/Port_Moresby", [35320, 35312, 36000], none,
    ["r8mynewB7tuao8C"]⟩,
  ⟨"Pacific/Rarotonga", [48056, -38344, -37800, -34200, -36000], none,
    ["rj2f1l4Brk6io0Cdlv68wD5rbw0Ec8s20D6ham0Ec8s20D6ham0Ec8s20D6u9a0Ec8s20D6ham0Ec8s20D6ham0E",
     "c8s20D6ham0Ec8s20D6ham0Ec8s20D6ham0Ec8s20D6u9a0Ec8s20D6ham0Ec8s20D6ham0Ec8s20D6ham0E"]⟩,
  ⟨"Pacific/Tahiti", [-35896, -36000], none,
    ["rpqa6d4B"]⟩,
  ⟨"Pacific/Tarawa", [41524, 43200], none,
    ["rjli7ykB"]⟩,
  ⟨"Pacific/Tongatapu", [44352, 44400, 46800, 50400], none,
    ["s6x5xs0B7znjyoCk8amdcD8fpc0Cbvs00D4bh80Ceelg0D4bh80C7pmis0D3lmo0C"]⟩]

end RelationalSearch.ZoneTable
