import RelationalSearch.Calendar.Date

/-!
# Written dates and times

The international form of dates and times: year, month and day with dashes, the
time of day with colons, six places of a second when it has a fraction, and the
offset from universal time with a colon.
-/

namespace RelationalSearch

/-- A natural number in decimal, filled up with zeros to a width. -/
def paddedNumber (width n : Nat) : String :=
  let digits := Nat.toDigits 10 n
  String.ofList (List.replicate (width - digits.length) '0' ++ digits)

/-- A date as `2024-05-01`. -/
def Date.written (d : Date) : String :=
  paddedNumber 4 d.year ++ "-" ++ paddedNumber 2 d.month ++ "-" ++ paddedNumber 2 d.day

/-- A time of day as `09:30:00`, with six places when there is a fraction. -/
def TimeOfDay.written (t : TimeOfDay) : String :=
  paddedNumber 2 t.hour ++ ":" ++ paddedNumber 2 t.minute ++ ":" ++ paddedNumber 2 t.second
    ++ (if t.microsecond == 0 then "" else "." ++ paddedNumber 6 t.microsecond)

/-- A local time, with a text between the date and the time. -/
def LocalTime.written (between : String) (t : LocalTime) : String :=
  t.date.written ++ between ++ t.time.written

/-- An offset as `+02:00`; its seconds are written when there are any. -/
def writtenOffset (offset : Int) : String :=
  let n := offset.natAbs
  (if offset < 0 then "-" else "+") ++ paddedNumber 2 (n / 3600) ++ ":" ++ paddedNumber 2 (n / 60 % 60)
    ++ (if n % 60 == 0 then "" else ":" ++ paddedNumber 2 (n % 60))

/-- An offset in the short form of data exchange: `Z` for universal time, else
hours and minutes, seconds being dropped. -/
def exchangeOffset (offset : Int) : String :=
  let n := offset.natAbs
  if offset == 0 then "Z"
  else (if offset < 0 then "-" else "+") ++ paddedNumber 2 (n / 3600) ++ ":" ++ paddedNumber 2 (n / 60 % 60)

namespace OffsetTime

/-- A time with its offset, with a text between the date and the time. -/
def written (between : String) (t : OffsetTime) : String :=
  t.reading.written between ++ (t.offset.map writtenOffset).getD ""

/-- A time with its offset, in the form of data exchange. -/
def exchange (t : OffsetTime) : String :=
  t.reading.written "T" ++ (t.offset.map exchangeOffset).getD ""

end OffsetTime

/-! ### Reading -/

/-- The number written by exactly so many digits at the front of a text. -/
def readPadded? (width : Nat) (cs : List Char) : Option (Nat × List Char) :=
  let digits := cs.take width
  if digits.length == width && digits.all Char.isDigit then
    some (digits.foldl (fun n c => 10 * n + (c.toNat - 48)) 0, cs.drop width)
  else none

/-- The text after a character, if it begins with it. -/
def afterChar? (c : Char) : List Char → Option (List Char)
  | x :: rest => if x == c then some rest else none
  | [] => none

/-- Reads a date. -/
def Date.read? (cs : List Char) : Option (Date × List Char) := do
  let (year, cs) ← readPadded? 4 cs
  let (month, cs) ← readPadded? 2 (← afterChar? '-' cs)
  let (day, cs) ← readPadded? 2 (← afterChar? '-' cs)
  let date : Date := ⟨year, month, day⟩
  if date.isValid then some (date, cs) else none

/-- Reads the fraction of a second, to the microsecond; further digits are
dropped. -/
def readFraction (cs : List Char) : Nat × List Char :=
  match cs with
  | '.' :: rest =>
    let digits := rest.takeWhile Char.isDigit
    let six := (digits ++ List.replicate 6 '0').take 6
    (six.foldl (fun n c => 10 * n + (c.toNat - 48)) 0, rest.dropWhile Char.isDigit)
  | _ => (0, cs)

/-- Reads an offset: hours and minutes, perhaps seconds, or the letter `Z`. -/
def readOffset? (cs : List Char) : Option (Option Int) :=
  match cs with
  | [] => some none
  | ['Z'] => some (some 0)
  | sign :: rest => do
    let (hours, cs) ← readPadded? 2 rest
    let (minutes, cs) ← readPadded? 2 (← afterChar? ':' cs)
    let (seconds, cs) ← match cs with
      | [] => some (0, [])
      | _ => readPadded? 2 (← afterChar? ':' cs)
    let n : Int := hours * 3600 + minutes * 60 + seconds
    if !cs.isEmpty then none
    else if sign == '+' then some (some n)
    else if sign == '-' then some (some (-n))
    else none

/-- Reads a date with a time of day and perhaps an offset; a date alone is its
midnight. -/
def OffsetTime.read? (s : String) : Option OffsetTime := do
  let (date, cs) ← Date.read? s.toList
  match cs with
  | [] => return ⟨⟨date, TimeOfDay.midnight⟩, none⟩
  | _ :: cs =>
    let (hour, cs) ← readPadded? 2 cs
    let (minute, cs) ← readPadded? 2 (← afterChar? ':' cs)
    let (second, cs) ← match cs with
      | ':' :: rest => readPadded? 2 rest
      | _ => some (0, cs)
    let (microsecond, cs) := readFraction cs
    let time : TimeOfDay := ⟨hour, minute, second, microsecond⟩
    if !time.isValid then none
    else return ⟨⟨date, time⟩, ← readOffset? cs⟩

end RelationalSearch
