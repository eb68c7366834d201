import RelationalSearch.Calendar.Zone

/-!
# Zones of Asia

Rows of the time zone database; `ZoneRow` says how they are read.
-/

namespace RelationalSearch.ZoneTable

/-- Zones of Asia. -/
def asia : List ZoneRow :=
 [⟨"Asia/Almaty", [18468, 18000, 21600, 25200], none,
    ["rvrw730B37a0d0Cqi27w0D9et80C9d440D9et80C9d440D9et80C9eys0D9d6w0C9d1c0D9d1c0C9d1c0D9d1c0C",
     "9d1c0D9d1c0C9d1c0D9d1c0C9d1c0D9d1c0C9d1c0D9q000Ciq5g0B5reo0C3ljw0D9d1c0C9d1c0D9d1c0C9d1c",
     "0D9d1c0C9d1c0D9d1c0C9q000Dasw00C7x6o0Dasw00C7x6o0Dasw00C7x6o0Db5uo0C7k800Db5uo0C7k800Db5",
     "uo0C7x6o0Dasw00C7x6o0Dasw00C7x6o0Db5uo0Ca37rs0B"]⟩,
  ⟨"Asia/Amman", [8624, 7200, 10800], none,
    ["rz95o0gBm566fkC60l80Bawo40C7v980Bawo40C7v980Bayis0C9gnw0B9b9g0C7v980Bautg0C7v980B3e6840C",
     "9et80B9io40C9cyk0B9d440C9cyk0B9d440C9px80Bayis0C7rjw0Bag040C8a2k0B9zc40C8drw0Ba31g0C8zzw",
     "0B9d440C9cyk0B9d440C8n180Bag040C8a5c0Bafxc0C8n400Ba2yo0C8n400Ba2yo0C8n400Bepmo0C4deo0B9o",
     "5c0C9ew00B9b6o0C9ew00B9d1c0C9d1c0B9d1c0Casw00B7x6o0Cafxc0B8n400C9d1c0B9d1c0Casw00B7x6o0C",
     "asw00B7x6o0Cb5uo0B7k800Cb5uo0B7k800Cb5uo0B7x6o0Casw00B7x6o0Cwel80B51k40Cb5uo0B7k800Cb5uo",
     "0B7x6o0Casw00B7x6o0Casw00B7x6o0Casw00B7x6o0Casw00B7x6o0Cb5uo0B7k800Cb5uo0B64dc0C"]⟩,
  ⟨"Asia/Anadyr", [42596, 43200, 46800, 50400, 39600], none,
    ["rvrvogsB379zj8Cqi27w0D9et80Cis040B9d440C9et80B9eys0C9d6w0B9d1c0C9d1c0B9d1c0C9d1c0B9d1c0C",
     "9d1c0B9d1c0C9d1c0B9d1c0C9d1c0B9d1c0C9q000Biq5g0E5reo0B3ljw0C9d1c0B9d1c0C9d1c0B9d1c0C9d1c",
     "0B9d1c0C9d1c0B9q000Casw00B7x6o0Casw00B7x6o0Casw00B7x6o0Cb5uo0B7k800Cb5uo0B7k800Cb5uo0B7x",
     "6o0Casw00B7x6o0Casw00B7x6o0Cb5uo0B7k800Cb5uo0B7k800Cb5uo0B7k800Cb5uo0B7x6o0Casw00B7x6o0C",
     "asw00Bj3440E7k800B"]⟩,
  ⟨"Asia/Aqtau", [12064, 14400, 18000, 21600], none,
    ["rvrwc0wB379y74Cqrh3w0Diruk0C9d440D9et80C9eys0D9d6w0C9d1c0D9d1c0C9d1c0D9d1c0C9d1c0D9d1c0C",
     "9d1c0D9d1c0C9d1c0D9d1c0C9d1c0D9q000Ciq5g0B5reo0C3ljw0D9d1c0C9d1c0D9d1c0C9d1c0D9d1c0B9d44",
     "0C9d1c0B9q000Casw00B7x6o0Casw00B7x6o0Casw00B7x6o0Cb5uo0B7k800Cb5uo0B7k800Cb5uo0B7x6o0Cas",
     "w00B7x6o0Casw00B7x6o0C"]⟩,
  ⟨"Asia/Aqtobe", [13720, 14400, 18000, 21600], none,
    ["rvrwaqwB379zh4Cqi27w0Ds6qk0C9d440D9et80C9eys0D9d6w0C9d1c0D9d1c0C9d1c0D9d1c0C9d1c0D9d1c0C",
     "9d1c0D9d1c0C9d1c0D9d1c0C9d1c0D9q000Ciq5g0B5reo0C3ljw0D9d1c0C9d1c0D9d1c0C9d1c0D9d1c0C9d1c",
     "0D9d1c0C9q000Dasw00C7x6o0Dasw00C7x6o0Dasw00C7x6o0Db5uo0C7k800Db5uo0C7k800Db5uo0C7x6o0Das",
     "w00C7x6o0Dasw00C7x6o0Db5uo0C"]⟩,
  ⟨"Asia/Ashgabat", [14012, 14400, 18000, 21600], none,
    ["rvrwaisB379zp8Cqi27w0D9et80C9d440D9et80C9d440D9et80C9eys0D9d6w0C9d1c0D9d1c0C9d1c0D9d1c0C",
     "9d1c0D9d1c0C9d1c0D9d1c0C9d1c0D9d1c0C9d1c0D9q000Ciq5g0B5reo0C"]⟩,
  ⟨"Asia/Atyrau", [12464, 10800, 18000, 21600, 14400], none,
    ["rvrwbpsB37a1a8Cqrh140Diruk0C9d440D9et80C9eys0D9d6w0C9d1c0D9d1c0C9d1c0D9d1c0C9d1c0D9d1c0C",
     "9d1c0D9d1c0C9d1c0D9d1c0C9d1c0D9q000Ciq5g0E5reo0C3ljw0D9d1c0C9d1c0D9d1c0C9d1c0D9d1c0C9d1c",
     "0D9d1c0C9q000Dasw00C7x6o0Dasw00C7x6o0Dasw00Cj3440E7k800Cb5uo0E7k800Cb5uo0E7x6o0Casw00E7x",
     "6o0Casw00E7x6o0C"]⟩,
  ⟨"Asia/Baghdad", [10660, 10656, 10800, 14400], none,
    ["rduvzrwBem11c4Cxkn3w0D7v980C9b9g0D9gnw0C9eys0D9et80C9d440D9b9g0C9d1c0D9d1c0C9d1c0D9d1c0C",
     "9d1c0D9d1c0C9d1c0D9d1c0C9d1c0D9q000C9f1k0D9ew00C9ew00D9ew00C9d1c0D9ew00C9d1c0D9ew00C9d1c",
     "0D9ew00C9ew00D9ew00C9d1c0D9ew00C9d1c0D9ew00C9d1c0D9ew00C9ew00D9ew00C9d1c0D9ew00C9d1c0D9e",
     "w00C9d1c0D9ew00C9ew00D9ew00C9d1c0D9ew00C9d1c0D9ew00C9d1c0D9ew00C"]⟩,
  ⟨"Asia/Baku", [11964, 10800, 14400, 18000], none,
    ["rvrwc3oBh4tkwcCckinw0D9et80C9d440D9et80C9d440D9et80C9eys0D9d6w0C9d1c0D9d1c0C9d1c0D9d1c0C",
     "9d1c0D9d1c0C9d1c0D9d1c0C9d1c0D9d1c0C9d1c0D9q000Ciq5g0B9d1c0C239ew0Dasw00C7x3w0Dasw00C7x6",
     "o0Dasw00C7x6o0Db5uo0C7k800Db5uo0C7k800Db5uo0C7x6o0Dasw00C7x6o0Dasw00C7x6o0Db5uo0C7k800Db",
     "5uo0C7k800Db5uo0C7k800Db5uo0C7x6o0Dasw00C7x6o0Dasw00C7x6o0Db5uo0C7k800Db5uo0C7k800Db5uo0",
     "C7x6o0Dasw00C7x6o0Dasw00C7x6o0Dasw00C"]⟩,
  ⟨"Asia/Bangkok", [24124, 25200], none,
    ["rtn541wB"]⟩,
  ⟨"Asia/Barnaul", [20100, 21600, 25200, 28800], none,
    ["rthbxtoB5hu6ucCqi27w0D9et80C9d440D9et80C9d440D9et80C9eys0D9d6w0C9d1c0D9d1c0C9d1c0D9d1c0C",
     "9d1c0D9d1c0C9d1c0D9d1c0C9d1c0D9d1c0C9d1c0D9q000Ciq5g0B5reo0C3ljw0D9d1c0C9d1c0D9d1c0C9d1c",
     "0D9d1c0C9d1c0D38fo0C64og0B9q000Casw00B7x6o0Casw00B7x6o0Casw00B7x6o0Cb5uo0B7k800Cb5uo0B7k",
     "800Cb5uo0B7x6o0Casw00B7x6o0Casw00B7x6o0Cb5uo0B7k800Cb5uo0B7k800Cb5uo0B7k800Cb5uo0B7x6o0C",
     "asw00B7x6o0Casw00B7x6o0Cb5uo0B7k800C1vbzw0Bqnc40C"]⟩,
  ⟨"Asia/Beirut", [8520, 7200, 10800], some ⟨7200, 10800, ⟨3, 5, 0, 0⟩, ⟨10, 5, 0, 0⟩⟩,
    ["r8mz83cBkzyucoCaunw0B88dg0C9et80B8yas0Ca2vw0Ba31g0C7k580Bhjqo40C7v980Bawo40C7v980Bawo40C",
     "7v980Bayis0C7v980Bawo40C7v980B5lhs40C56yk0Bawo40C7v980Bawo40C7v980Bawo40C7v980Bayis0C7v9",
     "80Bawo40C7v980Bautg0C7v980B2wxus0C8n180Ba4w40C8n180Ba4w40C8n180Ba4w40C8n180Bbs5g0C71mk0B",
     "alk40C86d80Ba4w40C8n180Ba4w40C8n180Ba6qs0C80t80B905g0C9cyk0B9d440C9cyk0B9d440C9cyk0B9q2s",
     "0C9cyk0B9d440C9cyk0B9d440C9cyk0B9d440C"]⟩,
  ⟨"Asia/Bishkek", [17904, 18000, 21600, 25200], none,
    ["rvrw7ioB379zxcCqi27w0D9et80C9d440D9et80C9d440D9et80C9eys0D9d6w0C9d1c0D9d1c0C9d1c0D9d1c0C",
     "9d1c0D9d1c0C9d1c0D9d1c0C9d1c0D9d1c0C9d1c0D9q000Ch8dc0Bbkl80C8n180Ba31g0C8n180Ba31g0C8n18",
     "0Ba31g0C8n180Ba31g0C8zzw0B9db20Cast80B7x9g0Cast80B7x9g0Cb5rw0B7kas0Cb5rw0B7kas0Cb5rw0B7x",
     "9g0Cast80B7x9g0Cast80B7x9g0Cb5rw0B7kas0C"]⟩,
  ⟨"Asia/Chita", [27232, 28800, 32400, 36000], none,
    ["rthl1nkB5hkxggCqi27w0D9et80C9d440D9et80C9d440D9et80C9eys0D9d6w0C9d1c0D9d1c0C9d1c0D9d1c0C",
     "9d1c0D9d1c0C9d1c0D9d1c0C9d1c0D9d1c0C9d1c0D9q000Ciq5g0B5reo0C3ljw0D9d1c0C9d1c0D9d1c0C9d1c",
     "0D9d1c0C9d1c0D9d1c0C9q000Dasw00C7x6o0Dasw00C7x6o0Dasw00C7x6o0Db5uo0C7k800Db5uo0C7k800Db5",
     "uo0C7x6o0Dasw00C7x6o0Dasw00C7x6o0Db5uo0C7k800Db5uo0C7k800Db5uo0C7k800Db5uo0C7x6o0Dasw00C",
     "7x6o0Dasw00C7x6o0Db5uo0C7k800D1vbzw0Bqnew0C"]⟩,
  ⟨"Asia/Colombo", [19164, 19172, 19800, 21600, 23400], none,
    ["r8myzvoBdkh6nsCisle6kDcajy0E1mp2u0Cqetjw0E7x5a0D4xvqq0C"]⟩,
  ⟨"Asia/Damascus", [8712, 7200, 10800], none,
    ["rtigxa0B5k6q0C8n180Ba31g0C8n180Ba31g0C8n180Ba31g0C8zzw0Bk4hk40C7yyk0Bawo40C7tek0Bb0dg0C7",
     "v980Bawo40C7tek0Balk40C887w0Bawo40C7v980Bayis0C7v980Bawo40C7v980Bawo40C7v980Bawo40C7v980",
     "Bayis0C7v980Bawo40C7v980Bawo40C7v980Bawo40C7v980Bayis0C7v980Bawo40C6bp80Bcg840C6bp80B2eh",
     "1g0C8zzw0B9ts40C8zzw0Bpvk40Cc33w0B7cw40Ccjrw0B6zxg0Cbtuk0B7rpg0C9gnw0B9d440C9cyk0B9et80C",
     "9et80B9rxg0C91uk0B92040C9et80B9o840C9et80B9d440C9et80B9eys0C9et80B9b9g0C9gnw0B99es0C9iik",
     "0B9d440C9et80B9eys0C9et80B9d440C9et80B9d440C9et80B9d440C9et80B9eys0C9et80B9d440C9et80B9d",
     "440C8y580B9q2s0Cb5rw0B7x9g0Caunw0B7ig40Cb5rw0B7x9g0Cast80B7x9g0Cast80B7x9g0Cast80B7x9g0C",
     "ast80B7x9g0Cb5rw0B7kas0Cb5rw0B7kas0Cb5rw0B7x9g0Cast80B7x9g0Cast80B7x9g0Cast80B7x9g0Cb5rw",
     "0B7kas0Cb5rw0B7kas0C"]⟩,
  ⟨"Asia/Dhaka", [21700, 21200, 23400, 19800, 21600, 25200], none,
    ["rduvr98Br080dwCbmgywD5lxg0C4qknw0Eu4ijy0Fa1400E"]⟩,
  ⟨"Asia/Dili", [30140, 28800, 32400], none,
    ["rpc5ds0Bfqct80Chufs00Bcpz440C"]⟩,
  ⟨"Asia/Dubai", [13272, 14400], none,
    ["rtigtrcB"]⟩,
  ⟨"Asia/Dushanbe", [16512, 18000, 21600, 25200], none,
    ["rvrw8lcB379yuoCqi27w0D9et80C9d440D9et80C9d440D9et80C9eys0D9d6w0C9d1c0D9d1c0C9d1c0D9d1c0C",
     "9d1c0D9d1c0C9d1c0D9d1c0C9d1c0D9d1c0C9d1c0D9q000Chp440B"]⟩,
  ⟨"Asia/Famagusta", [8148, 7200, 10800], some ⟨7200, 10800, ⟨3, 5, 0, 10800⟩, ⟨10, 5, 0, 14400⟩⟩,
    ["ruhlr1oBrvhy2cC9cyk0Bb42s0C7nuk0B8yas0C8zzw0B9q2s0C9et80B9b9g0C9cyk0B9q2s0C8zzw0B9d440C9",
     "cyk0B9d440C9cyk0B9d440C9cyk0B9d440C9px80B9d440C9cyk0B9d440C9cyk0B9d440C9cyk0B9d440C9cyk0",
     "B9d440C9cyk0B9d440C9px80B9d440C9cyk0B9d440C9cyk0B9d440C9cyk0B9d440C9cyk0B9d440C9cyk0B9q2",
     "s0C9cyk0B9d440C9cyk0B9d440Cat4c0B7x6o0Cb5uo0B7k800Cb5uo0B7k800Cb5uo0B7x6o0Casw00B7x6o0Ca",
     "sw00B7x6o0Cb5uo0B7k800Cb5uo0B7k800Cb5uo0B7k800Cb5uo0B7x6o0Casw00B7x6o0Casw00B7x6o0Cb5uo0",
     "B7k800Cb5uo0B7k800Cb5uo0B7x6o0Casw00B7x6o0Casw00B7x6o0Casw00B7x6o0Ctvxc0B"]⟩,
  ⟨"Asia/Gaza", [8272, 7200, 10800], some ⟨7200, 10800, ⟨3, 4, 4, 180000⟩, ⟨10, 4, 4, 180000⟩⟩,
    ["rjgska8Bkp9t1sC69xc0B2f1c0C10q800B7rmo0Cb0ao0B7thc0Cb0ao0B8jeo0Ca8io0B8jeo0Ca8io0B5hoig0",
     "C7el80Bawo40C7v980Bawqw0C7tk40Bb07w0C7tk40Bayd80C7tk40Bayd80C7tk40Bayd80C7tk40Bb07w0C7tk",
     "40Bayd80C7tk40Bayd80C7ves0Bawik0C1sns0B3p6is0C51ek0B9q2s0C6u7w0B2kjk40C25s00B1weyo0C5reo",
     "0Bbvs00C776k0Bdbpg0C5rbw0Bbbhg0C7rjw0Basys0C7k580Bc8tg0C6h980Bag040C7x3w0Basys0C8a2k0Bas",
     "ys0C8a2k0Bap9g0C80t80Bap9g0C7nuk0Bb2840C80t80Bb2840C8n400Ba2yo0C8n400Ba2yo0C8n400Basw00C",
     "9cyk0B9q2s0C9cyk0B9d440C9cyk0B9d440C9cyk0B9d440C9cyk0B9d440C8n400Ba2yo0C8ulg0B97ek0C8y58",
     "0B9ts40C8hms0Ba4qk0C7x3w0Basys0C8a5c0Bahs1oC71micBbzk5oC69uicBcg840C902o0B9q000C9cyk0B9d",
     "440Cast80B7z440Car1c0B7z440Cb5rw0B7kas0Cb5rw0B7kas0Cb5rw0B7vc00Caunw0B7x9g0Casw00B7x6o0C",
     "b4000B7nxc0Cb42s0B9d440C9cyk0B905g0C9px80B8n6s0Ca2vw0B7x9g0Cast80B7x9g0Cb5rw0B7kas0Cb5rw",
     "0B7kas0Cb5rw0B7x9g0Cast80B7x9g0Cast80B7x9g0Cb5rw0B7kas0Cb5rw0B7kas0Cb5rw0B7kas0Cb5rw0B7x",
     "9g0Cafuk0B8a840Ca2vw0B8n6s0C9cyk0B9d440C8zzw0B9q2s0C8a2k0B2itg0Ccvw0B7x9g0C7k580B25us0C1",
     "2t80B7x9g0C776k0B25us0C1frw0B7x9g0C6h980B2itg0C1sqk0B7x9g0C64ak0B25us0C2vmk0B7kas0C5rbw0",
     "B25us0C38l80B7kas0C51ek0B2itg0C3ljw0B7x9g0C4bh80B25us0C4bh80B7x9g0C3ljw0B2itg0C4ofw0B7x9",
     "g0C38l80B25us0C5rbw0B7kas0C2vmk0B25us0C64ak0B7kas0C25p80B2itg0C6h980B7x9g0C1frw0B25us0C7",
     "76k0B7x9g0Cpuk0B2itg0C7k580B7x9g0Ccvw0B2itg0C7x3w0Ba31g0C8zzw0B9d440C9cyk0B8n6s0Ca2vw0B8",
     "a840Cafuk0B7x9g0Cast80B7x9g0Cb5rw0B7kas0Cb5rw0B7kas0Cb5rw0B7kas0Cb5rw0B7x9g0Cast80B7x9g0",
     "Cast80B7x9g0Cb5rw0B7kas0Cb5rw0B7kas0Cast80B8a840Ca2vw0B8n6s0C9px80B905g0C8zzw0B9q2s0C8n1",
     "80B25us0Ccvw0B7kas0C8a2k0B25us0Cpuk0B7kas0C7k580B2itg0C12t80B7x9g0C6u7w0B25us0C1sqk0B7x9",
     "g0C64ak0B2itg0C25p80B7x9g0C5rbw0B2itg0C2vmk0B7kas0C5ed80B25us0C3ljw0B7kas0C4ofw0B2itg0C3",
     "yik0B7x9g0C3yik0B25us0C4ofw0B7x9g0C3ljw0B25us0C51ek0B7x9g0C2vmk0B2itg0C5ed80B7x9g0C2inw0",
     "B25us0C6h980B7kas0C1sqk0B2itg0C6u7w0B7kas0C1frw0B2itg0C776k0B7x9g0Cpuk0B25us0C"]⟩,
  ⟨"Asia/Hebron", [8423, 7200, 10800], some ⟨7200, 10800, ⟨3, 4, 4, 180000⟩, ⟨10, 4, 4, 180000⟩⟩,
    ["rjgsk61Bkp9t5zC69xc0B2f1c0C10q800B7rmo0Cb0ao0B7thc0Cb0ao0B8jeo0Ca8io0B8jeo0Ca8io0B5hoig0",
     "C7el80Bawo40C7v980Bawqw0C7tk40Bb07w0C7tk40Bayd80C7tk40Bayd80C7tk40Bayd80C7tk40Bb07w0C7tk",
     "40Bayd80C7tk40Bayd80C7ves0Bawik0C1sns0B3p6is0C51ek0B9q2s0C6u7w0B2kjk40C25s00B1weyo0C5reo",
     "0Bbvs00C776k0Bdbpg0C5rbw0Bbbhg0C7rjw0Basys0C7k580Bc8tg0C6h980Bag040C7x3w0Basys0C8a2k0Bas",
     "ys0C8a2k0Bap9g0C80t80Bap9g0C7nuk0Bb2840C80t80Bb2840C8n400Ba2yo0C8n400Ba2yo0C8n400Basw00C",
     "9cyk0B9q2s0C9cyk0B9d440C9cyk0B9d440C9cyk0B9d440C9cyk0B9d440C8n400Ba2yo0C8ulg0B97ek0C8y58",
     "0B9ts40C8hms0Ba4qk0C82nw0Banes0C8a5c0Bafxc0C73h80Bbzk5oC69uicB1hs40C1lbw0B9d440C902o0B9q",
     "000C9cyk0B9d440Cast80B7z440Car1c0B7z440Cb5rw0B7kas0Cb5rw0B7kas0Cb5rw0B7vc00Caunw0B7x9g0C",
     "asw00B7x6o0Cb4000B7nxc0Cb42s0B9d440C9cyk0B905g0C9px80B8n6s0Ca2vw0B7x9g0Cast80B7x9g0Cb5rw",
     "0B7kas0Cb5rw0B7kas0Cb5rw0B7x9g0Cast80B7x9g0Cast80B7x9g0Cb5rw0B7kas0Cb5rw0B7kas0Cb5rw0B7k",
     "as0Cb5rw0B7x9g0Cafuk0B8a840Ca2vw0B8n6s0C9cyk0B9d440C8zzw0B9q2s0C8a2k0B2itg0Ccvw0B7x9g0C7",
     "k580B25us0C12t80B7x9g0C776k0B25us0C1frw0B7x9g0C6h980B2itg0C1sqk0B7x9g0C64ak0B25us0C2vmk0",
     "B7kas0C5rbw0B25us0C38l80B7kas0C51ek0B2itg0C3ljw0B7x9g0C4bh80B25us0C4bh80B7x9g0C3ljw0B2it",
     "g0C4ofw0B7x9g0C38l80B25us0C5rbw0B7kas0C2vmk0B25us0C64ak0B7kas0C25p80B2itg0C6h980B7x9g0C1",
     "frw0B25us0C776k0B7x9g0Cpuk0B2itg0C7k580B7x9g0Ccvw0B2itg0C7x3w0Ba31g0C8zzw0B9d440C9cyk0B8",
     "n6s0Ca2vw0B8a840Cafuk0B7x9g0Cast80B7x9g0Cb5rw0B7kas0Cb5rw0B7kas0Cb5rw0B7kas0Cb5rw0B7x9g0",
     "Cast80B7x9g0Cast80B7x9g0Cb5rw0B7kas0Cb5rw0B7kas0Cast80B8a840Ca2vw0B8n6s0C9px80B905g0C8zz",
     "w0B9q2s0C8n180B25us0Ccvw0B7kas0C8a2k0B25us0Cpuk0B7kas0C7k580B2itg0C12t80B7x9g0C6u7w0B25u",
     "s0C1sqk0B7x9g0C64ak0B2itg0C25p80B7x9g0C5rbw0B2itg0C2vmk0B7kas0C5ed80B25us0C3ljw0B7kas0C4",
     "ofw0B2itg0C3yik0B7x9g0C3yik0B25us0C4ofw0B7x9g0C3ljw0B25us0C51ek0B7x9g0C2vmk0B2itg0C5ed80",
     "B7x9g0C2inw0B25us0C6h980B7kas0C1sqk0B2itg0C6u7w0B7kas0C1frw0B2itg0C776k0B7x9g0Cpuk0B25us",
     "0C"]⟩,
  ⟨"Asia/Ho_Chi_Minh", [25590, 25200, 28800, 32400], none,
    ["rozjqx6Bgj25iuC15ct80D8so00Btmtk0C4azmo0B2cm7w0C8285c0B"]⟩,
  ⟨"Asia/Hong_Kong", [27402, 28800, 32400, 30600], none,
    ["rllfgk0Bj44dk0C5k000D4d4y0C2195i0B7x3w0Cbj320B6uao0Cbvs00B7x6o0C9d1c0B7x6o0Casw00B7x6o0C",
     "asw00B7x6o0Casw00B8a5c0Casw00B7x6o0Cast80B77c40Cbiqk0B77c40Cbvp80B6udg0Cbvp80B77c40Cbiqk",
     "0B77c40Cbiqk0B77c40Cbiqk0B77c40Cbvp80B6udg0Cbvp80B6udg0Cbvp80B77c40Cbiqk0B77c40Cbiqk0B8n",
     "6s0C9cyk0B9d440C9cyk0B9d440C9px80B9d440C9cyk0B9d440C9cyk0B9d440C9cyk0B9d440C9cyk0B9d440C",
     "9px80B9d440C9cyk0B3lpg0Cf4d80B9d440C9cyk0B9d440C9cyk0B1c9440C8a2k0B"]⟩,
  ⟨"Asia/Hovd", [21996, 21600, 25200, 28800], none,
    ["rlzksd0B11sncb0C2qk2k0D9et80C9eys0D9cyk0C9d440D9cyk0C9d440D9cyk0C9d440D9cyk0C9d440D9cyk0",
     "C9d440D9cyk0C9d440D9px80C9d440D9cyk0C9d440D9cyk0C9d440D9cyk0C9d440D9cyk0C9d440D9cyk0C9q2",
     "s0D9cyk0C9d440D9cyk0C9d440D9cyk0C1ckdo0D7x3w0C9d440D9cyk0C9d440D9cyk0C9d440D9cyk0C9d440D",
     "9cyk0C9d440D9px80C4fio40D9ct00C9d9o0D9ct00C"]⟩,
  ⟨"Asia/Irkutsk", [25025, 25200, 28800, 32400], none,
    ["rtjp0ovB5fh175Cqi27w0D9et80C9d440D9et80C9d440D9et80C9eys0D9d6w0C9d1c0D9d1c0C9d1c0D9d1c0C",
     "9d1c0D9d1c0C9d1c0D9d1c0C9d1c0D9d1c0C9d1c0D9q000Ciq5g0B5reo0C3ljw0D9d1c0C9d1c0D9d1c0C9d1c",
     "0D9d1c0C9d1c0D9d1c0C9q000Dasw00C7x6o0Dasw00C7x6o0Dasw00C7x6o0Db5uo0C7k800Db5uo0C7k800Db5",
     "uo0C7x6o0Dasw00C7x6o0Dasw00C7x6o0Db5uo0C7k800Db5uo0C7k800Db5uo0C7k800Db5uo0C7x6o0Dasw00C",
     "7x6o0Dasw00C7x6o0Db5uo0C7k800D1vbzw0C"]⟩,
  ⟨"Asia/Jakarta", [25632, 26400, 27000, 32400, 28800, 25200], none,
    ["rvlm3moB4lzxc0C4wdzjcD1tu960C1cx860E11jta0C74uc20F"]⟩,
  ⟨"Asia/Jayapura", [33768, 32400, 34200], none,
    ["s07lva0B66bqe0Ca37vy0B"]⟩,
  ⟨"Asia/Jerusalem", [8454, 8440, 7200, 10800, 14400], some ⟨7200, 10800, ⟨3, 4, 4, 93600⟩, ⟨10, 5, 0, 7200⟩⟩,
    ["r8mz856BjtxuoeCbp5aigD69xc0C2f1c0D10q800C7rmo0Db0ao0C7thc0Db0ao0C8jeo0Da8io0C8jeo0Da8io0",
     "Ct9pc0E571c0D34yo0C9b6o0D9gqo0C8jeo0D7thc0Ca6o00Dbitc0C8a5c0D9d1c0C902o0D7x6o0Ce1k00D4oi",
     "o0Ce1k00D4oio0Cdolc0D64dc0Casw00D7k800C8rfeg0D51ek0C9q2s0D6u7w0C2kjk40D25s00C1weyo0D5reo",
     "0Cbvs00D776k0Cdbpg0D5rbw0Cbbhg0D7rjw0Casys0D7k580Cc8tg0D6h980Cag040D7x3w0Casys0D8a2k0Cas",
     "ys0D8a2k0Cap9g0D80t80Cap9g0D7nuk0Cb2840D80t80C9zc40D9iik0C9kis0D93p80C9mdg0D8qqk0Capf00D",
     "7x3w0Cbiw40D8zx40C9io40D8n180C9kis0D9vh80C8ulg0D9px80C9mdg0D8n180C9tuw0D9tmk0C8wg40D9gnw",
     "0C99es0D8qqk0C9zc40D9tmk0C8wg40D9gnw0C99es0D8qqk0Cacas0D9gnw0C99es0D93p80C9mdg0D"]⟩,
  ⟨"Asia/Kabul", [16608, 14400, 16200], none,
    ["rduvv6oBspc1pcC"]⟩,
  ⟨"Asia/Kamchatka", [38076, 39600, 43200, 46800], none,
    ["rv05mmcB3z045oCqi27w0D9et80C9d440D9et80C9d440D9et80C9eys0D9d6w0C9d1c0D9d1c0C9d1c0D9d1c0C",
     "9d1c0D9d1c0C9d1c0D9d1c0C9d1c0D9d1c0C9d1c0D9q000Ciq5g0B5reo0C3ljw0D9d1c0C9d1c0D9d1c0C9d1c",
     "0D9d1c0C9d1c0D9d1c0C9q000Dasw00C7x6o0Dasw00C7x6o0Dasw00C7x6o0Db5uo0C7k800Db5uo0C7k800Db5",
     "uo0C7x6o0Dasw00C7x6o0Dasw00C7x6o0Db5uo0C7k800Db5uo0C7k800Db5uo0C7k800Db5uo0C7x6o0Dasw00C",
     "7x6o0Dasw00Cj3440B7k800C"]⟩,
  ⟨"Asia/Karachi", [16092, 19800, 23400, 18000, 21600], none,
    ["rmq8690Bim3zt0C1mn180B33xpg0Dqd6eq0E9cyk0D2y85g0E7v980D8hms0Eaaak0D"]⟩,
  ⟨"Asia/Kathmandu", [20476, 19800, 20700], none,
    ["rtigo78Byg2lusC"]⟩,
  ⟨"Asia/Khandyga", [32533, 28800, 32400, 36000, 39600], none,
    ["rthkxkbB5hl1jpCqi27w0D9et80C9d440D9et80C9d440D9et80C9eys0D9d6w0C9d1c0D9d1c0C9d1c0D9d1c0C",
     "9d1c0D9d1c0C9d1c0D9d1c0C9d1c0D9d1c0C9d1c0D9q000Ciq5g0B5reo0C3ljw0D9d1c0C9d1c0D9d1c0C9d1c",
     "0D9d1c0C9d1c0D9d1c0C9q000Dasw00C7x6o0Dasw00C7x6o0Dasw00C7x6o0Db5uo0C7k800Db5uo0C7k800Db5",
     "uo0C7x6o0Dasw00C7x6o0Dasw00C3fx40D4h6s0Eb5uo0D7k800Eb5uo0D7k800Eb5uo0D7k800Eb5uo0D7x6o0E",
     "asw00D7x6o0Easw00D7x6o0Eb5uo0D7k800E8ql00D1mlho0C"]⟩,
  ⟨"Asia/Kolkata", [21208, 21200, 19270, 19800, 23400], none,
    ["qvbneawB83glc8Cisc6tmDinnm9aEbmfw0D5lxg0E1mn180D"]⟩,
  ⟨"Asia/Krasnoyarsk", [22286, 21600, 25200, 28800], none,
    ["rtipw4yB5gg8j2Cqi27w0D9et80C9d440D9et80C9d440D9et80C9eys0D9d6w0C9d1c0D9d1c0C9d1c0D9d1c0C",
     "9d1c0D9d1c0C9d1c0D9d1c0C9d1c0D9d1c0C9d1c0D9q000Ciq5g0B5reo0C3ljw0D9d1c0C9d1c0D9d1c0C9d1c",
     "0D9d1c0C9d1c0D9d1c0C9q000Dasw00C7x6o0Dasw00C7x6o0Dasw00C7x6o0Db5uo0C7k800Db5uo0C7k800Db5",
     "uo0C7x6o0Dasw00C7x6o0Dasw00C7x6o0Db5uo0C7k800Db5uo0C7k800Db5uo0C7k800Db5uo0C7x6o0Dasw00C",
     "7x6o0Dasw00C7x6o0Db5uo0C7k800D1vbzw0C"]⟩,
  ⟨"Asia/Kuching", [26480, 27000, 28800, 30000, 32400], none,
    ["rwq928gB3khwxkC1epvy0D4ohqoCe5a9cD4ohqoCe3flcD4ohqoCe3flcD4ohqoCe3flcD4ohqoCe5a9cD4ohqoC",
     "e3flcD4ohqoC3ajlcE1v2qk0C"]⟩,
  ⟨"Asia/Macau", [27250, 28800, 32400, 36000], none,
    ["rllfez2BjdvyoyC6onw0Dac580C8fs40D7v980C11luw0Bawlc0C7vc00Bac800Cbko00B7x6o0C9d1c0B7vc00C",
     "asw00B7x6o0Casw00B7x6o0Cauqo0B88ao0Casw00B7x6o0Casw00B779c0Cbitc0B779c0Cbvs00B6uao0Cbw1q",
     "0B77c40Cbiqk0B77c40Cbiqk0B77c40Cbiqk0B77c40Cbvp80B6udg0Cbvp80B6udg0Cbvp80B77c40Cbiqk0B77",
     "c40Cbiqk0B8n6s0C9cvs0B9d6w0C9cvs0B9d6w0C9px80B9d440C9cyk0B9d440C9cyk0B9d440C9cyk0B9d440C",
     "9cyk0B9d440C9px80B9d440C9cyk0B3lpg0Cf4d80B9d440C9cyk0B9d440C9cyk0B1c9440C8a2k0B"]⟩,
  ⟨"Asia/Magadan", [36192, 36000, 39600, 43200], none,
    ["rvrvteoB37a05cCqi27w0D9et80C9d440D9et80C9d440D9et80C9eys0D9d6w0C9d1c0D9d1c0C9d1c0D9d1c0C",
     "9d1c0D9d1c0C9d1c0D9d1c0C9d1c0D9d1c0C9d1c0D9q000Ciq5g0B5reo0C3ljw0D9d1c0C9d1c0D9d1c0C9d1c",
     "0D9d1c0C9d1c0D9d1c0C9q000Dasw00C7x6o0Dasw00C7x6o0Dasw00C7x6o0Db5uo0C7k800Db5uo0C7k800Db5",
     "uo0C7x6o0Dasw00C7x6o0Dasw00C7x6o0Db5uo0C7k800Db5uo0C7k800Db5uo0C7k800Db5uo0C7x6o0Dasw00C",
     "7x6o0Dasw00C7x6o0Db5uo0C7k800D1vbzw0Bs39k0C"]⟩,
  ⟨"Asia/Makassar", [28656, 28800, 32400], none,
    ["s07lz80B4u87w0C1w02k0B"]⟩,
  ⟨"Asia/Manila", [-57368, 29032, 28800, 32400], none,
    ["qqdek9kBsjc9igCje0pc0D3wnw0C2kc5g0D22dp80C4d3ms0D2rx80Cbwlpg0D95jw0C6lv1g0D3jp80C"]⟩,
  ⟨"Asia/Nicosia", [8008, 7200, 10800], some ⟨7200, 10800, ⟨3, 5, 0, 10800⟩, ⟨10, 5, 0, 14400⟩⟩,
    ["ruhlr5kBrvhxygC9cyk0Bb42s0C7nuk0B8yas0C8zzw0B9q2s0C9et80B9b9g0C9cyk0B9q2s0C8zzw0B9d440C9",
     "cyk0B9d440C9cyk0B9d440C9cyk0B9d440C9px80B9d440C9cyk0B9d440C9cyk0B9d440C9cyk0B9d440C9cyk0",
     "B9d440C9cyk0B9d440C9px80B9d440C9cyk0B9d440C9cyk0B9d440C9cyk0B9d440C9cyk0B9d440C9cyk0B9q2",
     "s0C9cyk0B9d440C9cyk0B9d440Cat4c0B"]⟩,
  ⟨"Asia/Novokuznetsk", [20928, 21600, 25200, 28800], none,
    ["rvruaioB37bu5cCqi27w0D9et80C9d440D9et80C9d440D9et80C9eys0D9d6w0C9d1c0D9d1c0C9d1c0D9d1c0C",
     "9d1c0D9d1c0C9d1c0D9d1c0C9d1c0D9d1c0C9d1c0D9q000Ciq5g0B5reo0C3ljw0D9d1c0C9d1c0D9d1c0C9d1c",
     "0D9d1c0C9d1c0D9d1c0C9q000Dasw00C7x6o0Dasw00C7x6o0Dasw00C7x6o0Db5uo0C7k800Db5uo0C7k800Db5",
     "uo0C7x6o0Dasw00C7x6o0Dasw00C7x6o0Db5uo0C7k800Db5uo0C7k800Db5uo0C7k800Db5uo0C7x6o0Dasw00C",
     "7x6o0Dasw00Cj3440B7k800C"]⟩,
  ⟨"Asia/Novosibirsk", [19900, 21600, 25200, 28800], none,
    ["rthjtb8B5hmbcsCqi27w0D9et80C9d440D9et80C9d440D9et80C9eys0D9d6w0C9d1c0D9d1c0C9d1c0D9d1c0C",
     "9d1c0D9d1c0C9d1c0D9d1c0C9d1c0D9d1c0C9d1c0D9q000Ciq5g0B5reo0C3ljw0D9d1c0C9d1c0D2vh00C6hn4",
     "0B9d1c0C9d1c0B9d1c0C9d1c0B9q000Casw00B7x6o0Casw00B7x6o0Casw00B7x6o0Cb5uo0B7k800Cb5uo0B7k",
     "800Cb5uo0B7x6o0Casw00B7x6o0Casw00B7x6o0Cb5uo0B7k800Cb5uo0B7k800Cb5uo0B7k800Cb5uo0B7x6o0C",
     "asw00B7x6o0Casw00B7x6o0Cb5uo0B7k800C1vbzw0Bwrpg0C"]⟩,
  ⟨"Asia/Omsk", [17610, 18000, 21600, 25200], none,
    ["rtfzueuB5j6d16Cqi27w0D9et80C9d440D9et80C9d440D9et80C9eys0D9d6w0C9d1c0D9d1c0C9d1c0D9d1c0C",
     "9d1c0D9d1c0C9d1c0D9d1c0C9d1c0D9d1c0C9d1c0D9q000Ciq5g0B5reo0C3ljw0D9d1c0C9d1c0D9d1c0C9d1c",
     "0D9d1c0C9d1c0D9d1c0C9q000Dasw00C7x6o0Dasw00C7x6o0Dasw00C7x6o0Db5uo0C7k800Db5uo0C7k800Db5",
     "uo0C7x6o0Dasw00C7x6o0Dasw00C7x6o0Db5uo0C7k800Db5uo0C7k800Db5uo0C7k800Db5uo0C7x6o0Dasw00C",
     "7x6o0Dasw00C7x6o0Db5uo0C7k800D1vbzw0C"]⟩,
  ⟨"Asia/Oral", [12324, 10800, 18000, 21600, 14400], none,
    ["rvrwbtoB37a16cCqi2540Ds6qk0C9d440D9et80C9eys0D9d6w0C9d1c0D9d1c0C9d1c0D9d1c0C9d1c0D9d1c0C",
     "9d1c0D9d1c0Ciq5g0E9d1c0C9q000E9d1c0C9d1c0E5reo0Ccyo00E9d1c0C9d1c0E9d1c0C9d1c0E9d1c0C9d1c",
     "0E9q000Casw00E7x6o0Casw00E7x6o0Casw00E7x6o0Cb5uo0E7k800Cb5uo0E7k800Cb5uo0E7x6o0Casw00E7x",
     "6o0Casw00E7x6o0C"]⟩,
  ⟨"Asia/Pontianak", [26240, 27000, 32400, 28800, 25200], none,
    ["s07m134B4tnu2wC1wkei0B1cx860D11jta0B74uc20Dcixam0E"]⟩,
  ⟨"Asia/Pyongyang", [30180, 30600, 32400], none,
    ["rndobdoB1yh10cC1i2uzy0B1f4qo0C"]⟩,
  ⟨"Asia/Qatar", [12368, 14400, 10800], none,
    ["rtiguggBrctnrkC"]⟩,
  ⟨"Asia/Qostanay", [15268, 14400, 18000, 21600], none,
    ["rvrw9jwB37a0o4Cqi27w0Ds6qk0C9d440D9et80C9eys0D9d6w0C9d1c0D9d1c0C9d1c0D9d1c0C9d1c0D9d1c0C",
     "9d1c0D9d1c0C9d1c0D9d1c0C9d1c0D9q000Ciq5g0B5reo0C3ljw0D9d1c0C9d1c0D9d1c0C9d1c0D9d1c0C9d1c",
     "0D9d1c0C9q000Dasw00C7x6o0Dasw00C7x6o0Dasw00C7x6o0Db5uo0C7k800Db5uo0C7k800Db5uo0C7x6o0Das",
     "w00C7x6o0Dasw00C7x6o0Daedjo0C"]⟩,
  ⟨"Asia/Qyzylorda", [15712, 14400, 18000, 21600], none,
    ["rvrw97kB37a10gCqi27w0Ds6qk0C9d440D9et80C9eys0D9d6w0C9d1c0D9d1c0C9d1c0D9d1c0C9d1c0D9d1c0C",
     "9d1c0D9d1c0C9d1c0D9d1c0C9d1c0D9q000Cohhc0Dcyo00C9d1c0D9d1c0C9d1c0D9d1c0C9d1c0D9d1c0C9q00",
     "0Dasw00C7x6o0Dasw00C7x6o0Dasw00C7x6o0Db5uo0C7k800Db5uo0C7k800Db5uo0C7x6o0Dasw00C7x6o0Das",
     "w00C7x6o0D7osl00C"]⟩,
  ⟨"Asia/Riyadh", [11212, 10800], none,
    ["s7ph60kB"]⟩,
  ⟨"Asia/Sakhalin", [34248, 32400, 39600, 43200, 36000], none,
    ["rm0p9koBkvnarcCikvh40D9et80C9d440D9et80C9d440D9et80C9eys0D9d6w0C9d1c0D9d1c0C9d1c0D9d1c0C",
     "9d1c0D9d1c0C9d1c0D9d1c0C9d1c0D9d1c0C9d1c0D9q000Ciq5g0E5reo0C3ljw0D9d1c0C9d1c0D9d1c0C9d1c",
     "0D9d1c0C9d1c0D9d1c0C9q000Dasw00Ciq5g0E7x6o0Casw00E7x6o0Cb5uo0E7k800Cb5uo0E7k800Cb5uo0E7x",
     "6o0Casw00E7x6o0Casw00E7x6o0Cb5uo0E7k800Cb5uo0E7k800Cb5uo0E7k800Cb5uo0E7x6o0Casw00E7x6o0C",
     "asw00E7x6o0Cb5uo0E7k800C1vbzw0Eqnc40C"]⟩,
  ⟨"Asia/Samarkand", [16073, 14400, 18000, 21600], none,
    ["rvrw8xjB37a1ahCqi27w0Ds6qk0C9d440D9et80C9eys0D9d6w0C9d1c0D9d1c0C9d1c0D9d1c0C9d1c0D9d1c0C",
     "9d1c0D9d1c0C9d1c0D9d1c0C9d1c0D9q000C9d1c0D9d1c0C"]⟩,
  ⟨"Asia/Seoul", [30472, 30600, 32400, 36000, 34200], none,
    ["rndob5kB1yh18gCj07fy0D5cik0Cae5g0D8a2k0Cae5g0D8bx80Cc8tg0D6h980C1bj6s0Bl3aq0E6j3w0Bd2g40",
     "E6u7w0Bb5xg0E776k0Bbiw40E776k0Bbiw40E776k0Bbiw40E776k0Bgrs40Cdfqxi0D7x6o0Casw00D7x6o0C"]⟩,
  ⟨"Asia/Shanghai", [29143, 28800, 32400], none,
    ["rjlihihB9jeyxjC8sl80Basbpg0C6w2k0B7ves0Cbxjw0B4mqs0C1vduk0Bd4as0C75bw0Ba31g0Caaak0B9d440",
     "C7v980Bawo40C1dx80Bj9xpo0C6u7w0Basys0C7x3w0Bb5xg0C7k580Bb5xg0C7x3w0Basys0C7x3w0Basys0C7x",
     "3w0B"]⟩,
  ⟨"Asia/Singapore", [24925, 25200, 26400, 27000, 32400, 28800], none,
    ["rlwfrfnBeeb94dC4it32oD8n3jcE1v2p60Diy3ms0F"]⟩,
  ⟨"Asia/Srednekolymsk", [36892, 36000, 39600, 43200], none,
    ["rvrvsv8B37a0osCqi27w0D9et80C9d440D9et80C9d440D9et80C9eys0D9d6w0C9d1c0D9d1c0C9d1c0D9d1c0C",
     "9d1c0D9d1c0C9d1c0D9d1c0C9d1c0D9d1c0C9d1c0D9q000Ciq5g0B5reo0C3ljw0D9d1c0C9d1c0D9d1c0C9d1c",
     "0D9d1c0C9d1c0D9d1c0C9q000Dasw00C7x6o0Dasw00C7x6o0Dasw00C7x6o0Db5uo0C7k800Db5uo0C7k800Db5",
     "uo0C7x6o0Dasw00C7x6o0Dasw00C7x6o0Db5uo0C7k800Db5uo0C7k800Db5uo0C7k800Db5uo0C7x6o0Dasw00C",
     "7x6o0Dasw00C7x6o0Db5uo0C7k800D1vbzw0C"]⟩,
  ⟨"Asia/Taipei", [29160, 28800, 32400], none,
    ["rgzl060Blsd1m0C45slc0Bc51c0C75bw0Ba31g0Caaak0B9d440C7v980Bawo40C7v980Bawo40C7v980Bawo40C",
     "7v980B7tk40Cclmk0B7rpg0Cb07w0B7rpg0Cb07w0B7rpg0C9et80B9eys0C9et80B9d440C9et80B9d440C9et8",
     "0B9d440C9et80Bcjxg0C69uk0Bci2s0C69uk0B6its40C9et80B9d440C9et80B1yf9g0C4qak0B"]⟩,
  ⟨"Asia/Tashkent", [16631, 18000, 21600, 25200], none,
    ["rvrw8i1B379yxzCqi27w0D9et80C9d440D9et80C9d440D9et80C9eys0D9d6w0C9d1c0D9d1c0C9d1c0D9d1c0C",
     "9d1c0D9d1c0C9d1c0D9d1c0C9d1c0D9d1c0C9d1c0D9q000Ciq5g0B"]⟩,
  ⟨"Asia/Tbilisi", [10751, 10800, 14400, 18000], none,
    ["rvrwd1dBh4tjynCckinw0D9et80C9d440D9et80C9d440D9et80C9eys0D9d6w0C9d1c0D9d1c0C9d1c0D9d1c0C",
     "9d1c0D9d1c0C9d1c0D9d1c0C9d1c0D9d1c0C9d1c0D9q000Ciq5g0B9cvs0C9cyk0B9d440C9cyk0B9d440Cipzw",
     "0D9cyk0C9q2s0Dtivw0C7x9g0Dast80C7x9g0Db5rw0C7kas0Db5rw0C7kas0Db5rw0C7x9g0Dast80C7x9g0Das",
     "t80C7x9g0D4ofw0C6hn40B7k800C"]⟩,
  ⟨"Asia/Tehran", [12344, 12600, 16200, 14400, 18000], none,
    ["s1kozt4Blsvh0wCayg00D7z2q0E6uao0D51hc0Ba4uq0C5wvw0B9gtg0C9kd80B5ja5g0C7avw0B9d440C9gnw0B",
     "9b9g0C9gnw0B9b9g0C9gnw0B9b9g0C9gnw0B9b9g0C9gnw0B9d440C9gnw0B9b9g0C9gnw0B9b9g0C9gnw0B9b9g",
     "0C9gnw0B9d440C9gnw0B9b9g0C9gnw0B9b9g0C9gnw0B9b9g0C9gnw0B9d440C9gnw0B1av440C9gnw0B9d440C9",
     "gnw0B9b9g0C9gnw0B9b9g0C9gnw0B9b9g0C9gnw0B9d440C9gnw0B9b9g0C9gnw0B9b9g0C9gnw0B9b9g0C9gnw0",
     "B9d440C9gnw0B9b9g0C9gnw0B9b9g0C9gnw0B9b9g0C9gnw0B9d440C9gnw0B9b9g0C9gnw0B"]⟩,
  ⟨"Asia/Thimphu", [21516, 19800, 21600], none,
    ["s7xe4qcBkxymnoC"]⟩,
  ⟨"Asia/Tokyo", [33539, 32400, 36000], none,
    ["rct9to0Bvhjeo0C6uao0Bafxc0C8a5c0Bc8qo0C6hc00Bc8qo0C6hc00B"]⟩,
  ⟨"Asia/Tomsk", [20391, 21600, 25200, 28800], none,
    ["rthy5llB5h7z2fCqi27w0D9et80C9d440D9et80C9d440D9et80C9eys0D9d6w0C9d1c0D9d1c0C9d1c0D9d1c0C",
     "9d1c0D9d1c0C9d1c0D9d1c0C9d1c0D9d1c0C9d1c0D9q000Ciq5g0B5reo0C3ljw0D9d1c0C9d1c0D9d1c0C9d1c",
     "0D9d1c0C9d1c0D9d1c0C9q000Dasw00C7x6o0Dasw00C7x6o0Dasw00C7x6o0Db5uo0C7k800Db5uo0C7k800Db5",
     "uo0C7x6o0D1leo0C97k40B7x6o0Casw00B7x6o0Cb5uo0B7k800Cb5uo0B7k800Cb5uo0B7k800Cb5uo0B7x6o0C",
     "asw00B7x6o0Casw00B7x6o0Cb5uo0B7k800C1vbzw0Btw040C"]⟩,
  ⟨"Asia/Ulaanbaatar", [25652, 25200, 28800, 32400], none,
    ["rlzkpjgB11sncckC2qk2k0D9et80C9eys0D9cyk0C9d440D9cyk0C9d440D9cyk0C9d440D9cyk0C9d440D9cyk0",
     "C9d440D9cyk0C9d440D9px80C9d440D9cyk0C9d440D9cyk0C9d440D9cyk0C9d440D9cyk0C9d440D9cyk0C9q2",
     "s0D9cyk0C9d440D9cyk0C9d440D9cyk0C1ckdo0D7x3w0C9d440D9cyk0C9d440D9cyk0C9d440D9cyk0C9d440D",
     "9cyk0C9d440D9px80C4fio40D9ct00C9d9o0D9ct00C"]⟩,
  ⟨"Asia/Urumqi", [21020, 21600], none,
    ["rxorrs4B"]⟩,
  ⟨"Asia/Ust-Nera", [34374, 28800, 32400, 43200, 39600, 36000], none,
    ["rthkw56B5hl2yuCqi27w0D9eno0E9d440D9et80E9d440D9et80E9eys0D9d6w0E9d1c0D9d1c0E9d1c0D9d1c0E",
     "9d1c0D9d1c0E9d1c0D9d1c0E9d1c0D9d1c0E9d1c0D9q000Eiq5g0F5reo0E3ljw0D9d1c0E9d1c0D9d1c0E9d1c",
     "0D9d1c0E9d1c0D9d1c0E9q000Dasw00E7x6o0Dasw00E7x6o0Dasw00E7x6o0Db5uo0E7k800Db5uo0E7k800Db5",
     "uo0E7x6o0Dasw00E7x6o0Dasw00E7x6o0Db5uo0E7k800Db5uo0E7k800Db5uo0E7k800Db5uo0E7x6o0Dasw00E",
     "7x6o0Dasw00E7x6o0Db5uo0E7k800D8ql00E1mlho0F"]⟩,
  ⟨"Asia/Vladivostok", [31651, 32400, 36000, 39600], none,
    ["rv0f0wtB3yqvf7Cqi27w0D9et80C9d440D9et80C9d440D9et80C9eys0D9d6w0C9d1c0D9d1c0C9d1c0D9d1c0C",
     "9d1c0D9d1c0C9d1c0D9d1c0C9d1c0D9d1c0C9d1c0D9q000Ciq5g0B5reo0C3ljw0D9d1c0C9d1c0D9d1c0C9d1c",
     "0D9d1c0C9d1c0D9d1c0C9q000Dasw00C7x6o0Dasw00C7x6o0Dasw00C7x6o0Db5uo0C7k800Db5uo0C7k800Db5",
     "uo0C7x6o0Dasw00C7x6o0Dasw00C7x6o0Db5uo0C7k800Db5uo0C7k800Db5uo0C7k800Db5uo0C7x6o0Dasw00C",
     "7x6o0Dasw00C7x6o0Db5uo0C7k800D1vbzw0C"]⟩,
  ⟨"Asia/Yakutsk", [31138, 28800, 32400, 36000], none,
    ["rthkyn2B5hl0gyCqi27w0D9et80C9d440D9et80C9d440D9et80C9eys0D9d6w0C9d1c0D9d1c0C9d1c0D9d1c0C",
     "9d1c0D9d1c0C9d1c0D9d1c0C9d1c0D9d1c0C9d1c0D9q000Ciq5g0B5reo0C3ljw0D9d1c0C9d1c0D9d1c0C9d1c",
     "0D9d1c0C9d1c0D9d1c0C9q000Dasw00C7x6o0Dasw00C7x6o0Dasw00C7x6o0Db5uo0C7k800Db5uo0C7k800Db5",
     "uo0C7x6o0Dasw00C7x6o0Dasw00C7x6o0Db5uo0C7k800Db5uo0C7k800Db5uo0C7k800Db5uo0C7x6o0Dasw00C",
     "7x6o0Dasw00C7x6o0Db5uo0C7k800D1vbzw0C"]⟩,
  ⟨"Asia/Yangon", [23087, 23400, 32400], none,
    ["rtigm6pBbnjp3bC1kh520B"]⟩,
  ⟨"Asia/Yekaterinburg", [14553, 13505, 14400, 18000, 21600], none,
    ["rrorzfrB1kybx4C5pfyv5Dqi27w0E9et80D9d440E9et80D9d440E9et80D9eys0E9d6w0D9d1c0E9d1c0D9d1c0",
     "E9d1c0D9d1c0E9d1c0D9d1c0E9d1c0D9d1c0E9d1c0D9d1c0E9q000Diq5g0C5reo0D3ljw0E9d1c0D9d1c0E9d1",
     "c0D9d1c0E9d1c0D9d1c0E9d1c0D9q000Easw00D7x6o0Easw00D7x6o0Easw00D7x6o0Eb5uo0D7k800Eb5uo0D7",
     "k800Eb5uo0D7x6o0Easw00D7x6o0Easw00D7x6o0Eb5uo0D7k800Eb5uo0D7k800Eb5uo0D7k800Eb5uo0D7x6o0",
     "Easw00D7x6o0Easw00D7x6o0Eb5uo0D7k800E1vbzw0D"]⟩,
  ⟨"Asia/Yerevan", [10680, 10800, 14400, 18000], none,
    ["rvrwd3cBh4tjwoCckinw0D9et80C9d440D9et80C9d440D9et80C9eys0D9d6w0C9d1c0D9d1c0C9d1c0D9d1c0C",
     "9d1c0D9d1c0C9d1c0D9d1c0C9d1c0D9d1c0C9d1c0D9q000Ciq5g0B9d1c0C9d1c0B9d1c0C9d1c0B9d1c0C9d1c",
     "0B9d1c0C11t180Dasw00C7x6o0Dasw00C7x6o0Db5uo0C7k800Db5uo0C7k800Db5uo0C7x6o0Dasw00C7x6o0Da",
     "sw00C7x6o0Db5uo0C7k800Db5uo0C7k800Db5uo0C7k800Db5uo0C7x6o0Dasw00C7x6o0Dasw00C7x6o0Db5uo0",
     "C7k800Db5uo0C"]⟩]

end RelationalSearch.ZoneTable
