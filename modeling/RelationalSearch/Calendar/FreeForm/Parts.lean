import RelationalSearch.Calendar.Date
import RelationalSearch.Calendar.FreeForm.Words
import RelationalSearch.Number.Nearest
import RelationalSearch.Text.Digits

/-!
# Which number is the year

The numbers of a date arrive in any order, some of them known to be the year, the
month or the day. `DateParts.resolve` settles the rest: a number above 31 is a
year, a number above 12 is no month, and otherwise the month comes before the
day and the year last.
-/

namespace RelationalSearch.FreeForm

/-- A number as it was written: its digits, and how many of them stand after the
point. -/
structure Numeral where
  digits : Nat
  places : Nat
  deriving DecidableEq, Repr

namespace Numeral

/-- The whole part. -/
def whole (n : Numeral) : Nat := n.digits / tenTo n.places

/-- Whether there is a part beyond the whole. -/
def hasRest (n : Numeral) : Bool := n.digits % tenTo n.places != 0

/-- Sixty times the part beyond the whole, rounded down. -/
def sixtieths (n : Numeral) : Nat := 60 * (n.digits % tenTo n.places) / tenTo n.places

/-- Whether the number is above a whole number. -/
def exceeds (n : Numeral) (limit : Nat) : Bool := limit * tenTo n.places < n.digits

end Numeral

/-- Reads a numeral: digits, perhaps with one point after the first of them. -/
def numeral? (token : String) : Option Numeral :=
  let cs := token.toList
  let whole := cs.takeWhile Text.isDigitChar
  match cs.dropWhile Text.isDigitChar with
  | [] => if whole.isEmpty then none else some ⟨Text.digitsValue whole, 0⟩
  | c :: rest =>
    if c == '.' && rest.all Text.isDigitChar && !(whole.isEmpty && rest.isEmpty) then
      some ⟨Text.digitsValue (whole ++ rest), rest.length⟩
    else none

/-- Reads a whole number written by digits alone. -/
def wholeNumber? (token : String) : Option Nat :=
  if !token.isEmpty && token.toList.all Text.isDigitChar then some (Text.digitsValue token.toList)
  else none

/-- What a number of a date is known to be. -/
inductive PartLabel where
  | year
  | month
  | day
  deriving DecidableEq, Repr

/-- The numbers of a date, with the places of those that are known. -/
structure DateParts where
  values : List Nat
  hasCentury : Bool
  yearAt : Option Nat
  monthAt : Option Nat
  dayAt : Option Nat
  deriving Repr, Inhabited

namespace DateParts

/-- A date without numbers. -/
def empty : DateParts := ⟨[], false, none, none, none⟩

/-- Adds a number with what is known about it; nothing may be known twice. -/
def add? (p : DateParts) (value : Nat) (label : Option PartLabel) : Option DateParts :=
  let here := some p.values.length
  let p := { p with values := p.values ++ [value] }
  match label with
  | none => some p
  | some .year => if p.yearAt.isSome then none else some { p with yearAt := here }
  | some .month => if p.monthAt.isSome then none else some { p with monthAt := here }
  | some .day => if p.dayAt.isSome then none else some { p with dayAt := here }

/-- Adds a number that can only be a year. -/
def addYear? (p : DateParts) (value : Nat) (label : Option PartLabel) : Option DateParts :=
  if label.isNone || label == some .year then
    { p with hasCentury := true }.add? value (some .year)
  else none

/-- Adds a number given as a text: more than two digits make it a year. -/
def addText? (p : DateParts) (token : String) (label : Option PartLabel) : Option DateParts :=
  match wholeNumber? token with
  | some n => if 2 < token.length then p.addYear? n label else p.add? n label
  | none => none

/-- Adds a numeral: a number above a hundred is a year. -/
def addNumeral? (p : DateParts) (n : Numeral) : Option DateParts :=
  if n.exceeds 100 then p.addYear? n.whole none else p.add? n.whole none

/-- The number at a place. -/
def at? (p : DateParts) (place : Option Nat) : Option Nat := place.bind fun i => p.values[i]?

/-- The length of a month as far as the date is known; an unknown year counts as
a leap year. -/
def monthLength (p : DateParts) (month : Nat) : Nat :=
  Date.daysInMonth ((p.at? p.yearAt).getD 2000) month

/-- Whether a number could be the day of the date. -/
def couldBeDay (p : DateParts) (n : Numeral) : Bool :=
  let limit := match p.at? p.monthAt with
    | none => 31
    | some month => p.monthLength month
  p.dayAt.isNone && tenTo n.places ≤ n.digits && !n.exceeds limit

/-- Year, month and day, as far as they are known. -/
structure Resolved where
  year : Option Nat
  month : Option Nat
  day : Option Nat
  deriving DecidableEq, Repr

/-- The place that is left when two of three are known. -/
def remaining (a b : Nat) : Nat := 3 - a - b

/-- Year, month and day by known places; of three numbers, two known places give
the third. -/
def byPlaces (p : DateParts) : Resolved :=
  match p.values.length, p.yearAt, p.monthAt, p.dayAt with
  | 3, none, some m, some d => ⟨p.at? (some (remaining m d)), p.at? p.monthAt, p.at? p.dayAt⟩
  | 3, some y, none, some d => ⟨p.at? p.yearAt, p.at? (some (remaining y d)), p.at? p.dayAt⟩
  | 3, some y, some m, none => ⟨p.at? p.yearAt, p.at? p.monthAt, p.at? (some (remaining y m))⟩
  | _, _, _, _ => ⟨p.at? p.yearAt, p.at? p.monthAt, p.at? p.dayAt⟩

/-- How many places are known. -/
def known (p : DateParts) : Nat :=
  [p.yearAt, p.monthAt, p.dayAt].countP Option.isSome

/-- Three numbers, in the order in which they were written. -/
def ofThree (monthAt : Option Nat) (a b c : Nat) : Resolved :=
  match monthAt with
  | some 0 => if 31 < b then ⟨some b, some a, some c⟩ else ⟨some c, some a, some b⟩
  | some 1 => if 31 < a then ⟨some a, some b, some c⟩ else ⟨some c, some b, some a⟩
  | some _ => if 31 < b then ⟨some b, some c, some a⟩ else ⟨some a, some c, some b⟩
  | none =>
    if 31 < a then ⟨some a, some b, some c⟩
    else if 12 < a then ⟨some c, some b, some a⟩
    else ⟨some c, some a, some b⟩

/-- Year, month and day; more than three numbers have no reading. -/
def resolve (p : DateParts) : Option Resolved :=
  let size := p.values.length
  if (size == p.known && 0 < size) || (size == 3 && p.known == 2) then some p.byPlaces
  else match p.values, p.monthAt with
    | [], _ => some ⟨none, none, none⟩
    | [a], none => some (if 31 < a then ⟨some a, none, none⟩ else ⟨none, none, some a⟩)
    | [a], some _ => some ⟨none, some a, none⟩
    | [a, b], some m =>
      let month := if m == 0 then a else b
      let other := if m == 0 then b else a
      some (if 31 < other then ⟨some other, some month, none⟩ else ⟨none, some month, some other⟩)
    | [a, b], none =>
      some (if 31 < a then ⟨some a, some b, none⟩
        else if 31 < b then ⟨some b, some a, none⟩
        else ⟨none, some a, some b⟩)
    | [a, b, c], m =>
      if p.yearAt == some 0 && m.isNone then some ⟨some a, some b, some c⟩
      else some (ofThree m a b c)
    | _, _ => none

end DateParts

end RelationalSearch.FreeForm
