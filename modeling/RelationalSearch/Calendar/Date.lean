/-!
# Dates and times of day

The calendar is the Gregorian one carried back to year 1. A date has a day
number, counted from day 1 on the first of January of year 1, and a local date
and time has a second number counted the same way, so that shifting by an offset
is addition. Years run from 1 to 9999; a shift that leaves them has no result.
-/

namespace RelationalSearch

/-- A day of the calendar. -/
structure Date where
  year : Nat
  month : Nat
  day : Nat
  deriving DecidableEq, Repr, Inhabited

/-- A time of day, to the microsecond. -/
structure TimeOfDay where
  hour : Nat
  minute : Nat
  second : Nat
  microsecond : Nat
  deriving DecidableEq, Repr, Inhabited

/-- A date and a time of day as a wall clock and a wall calendar show them. -/
structure LocalTime where
  date : Date
  time : TimeOfDay
  deriving DecidableEq, Repr, Inhabited

/-- A local time, with its offset from universal time in seconds if it has one. -/
structure OffsetTime where
  reading : LocalTime
  offset : Option Int
  deriving DecidableEq, Repr, Inhabited

/-- The first and the last year of the calendar. -/
def firstYear : Nat := 1

@[inherit_doc firstYear]
def lastYear : Nat := 9999

/-! ### Dates -/

namespace Date

/-- Whether a year has a 29th of February. -/
def isLeap (year : Nat) : Bool :=
  year % 4 == 0 && (year % 100 != 0 || year % 400 == 0)

/-- The lengths of the months of a year. -/
def monthLengths (year : Nat) : List Nat :=
  [31, if isLeap year then 29 else 28, 31, 30, 31, 30, 31, 31, 30, 31, 30, 31]

/-- The number of days in a month, counted from 1. -/
def daysInMonth (year month : Nat) : Nat :=
  (monthLengths year).getD (month - 1) 0

/-- Whether a date is in the calendar. -/
def isValid (d : Date) : Bool :=
  firstYear ≤ d.year && d.year ≤ lastYear && 1 ≤ d.month && d.month ≤ 12 && 1 ≤ d.day
    && d.day ≤ daysInMonth d.year d.month

/-- The number of days before the first of January of a year. -/
def daysBeforeYear (year : Nat) : Nat :=
  let y := year - 1
  y * 365 + y / 4 - y / 100 + y / 400

/-- The number of days of a year before the first day of a month. -/
def daysBeforeMonth (year month : Nat) : Nat :=
  ((monthLengths year).take (month - 1)).foldl (· + ·) 0

/-- The day number; the first of January of year 1 has number 1. -/
def dayNumber (d : Date) : Nat :=
  daysBeforeYear d.year + daysBeforeMonth d.year d.month + d.day

/-- The month and the day of the month of the `n`-th day (from 0) of the months
with the given lengths, the first of them being month `month`. -/
def inMonths (month : Nat) : List Nat → Nat → Nat × Nat
  | [], n => (month, n + 1)
  | [_], n => (month, n + 1)
  | length :: rest, n => if n < length then (month, n + 1) else inMonths (month + 1) rest (n - length)

/-- The date with a given day number, from cycles of 400, 100, 4 years and 1. -/
def ofDayNumber (number : Nat) : Date :=
  let n := number - 1
  let n400 := n / 146097
  let n := n % 146097
  let n100 := n / 36524
  let n := n % 36524
  let n4 := n / 1461
  let n := n % 1461
  let n1 := n / 365
  let n := n % 365
  let year := n400 * 400 + n100 * 100 + n4 * 4 + n1 + 1
  if n1 == 4 || n100 == 4 then ⟨year - 1, 12, 31⟩
  else
    let inYear := inMonths 1 (monthLengths year) n
    ⟨year, inYear.1, inYear.2⟩

/-- The day of the week, Monday being 0. -/
def weekday (d : Date) : Nat := (d.dayNumber + 6) % 7

end Date

/-! ### Times of day -/

namespace TimeOfDay

/-- The first moment of a day. -/
def midnight : TimeOfDay := ⟨0, 0, 0, 0⟩

/-- The last moment of a day. -/
def lastMoment : TimeOfDay := ⟨23, 59, 59, 999999⟩

/-- Whether a clock can show the time. -/
def isValid (t : TimeOfDay) : Bool :=
  t.hour < 24 && t.minute < 60 && t.second < 60 && t.microsecond < 1000000

/-- The whole seconds since midnight. -/
def seconds (t : TimeOfDay) : Nat := t.hour * 3600 + t.minute * 60 + t.second

/-- The time a number of seconds after midnight, with the given microseconds. -/
def ofSeconds (n microsecond : Nat) : TimeOfDay :=
  ⟨n / 3600, n / 60 % 60, n % 60, microsecond⟩

/-- A time is given back by its seconds and its microseconds. -/
theorem ofSeconds_seconds {t : TimeOfDay} (h : t.isValid = true) :
    ofSeconds t.seconds t.microsecond = t := by
  obtain ⟨hour, minute, second, microsecond⟩ := t
  simp only [isValid, Bool.and_eq_true, decide_eq_true_eq] at h
  simp only [ofSeconds, seconds, TimeOfDay.mk.injEq, and_true]
  omega

end TimeOfDay

/-! ### Local times -/

namespace LocalTime

/-- The number of seconds since the beginning of the calendar's first day. -/
def seconds (t : LocalTime) : Int :=
  ((t.date.dayNumber : Int) - 1) * 86400 + t.time.seconds

/-- The local time a number of seconds after the beginning of the calendar, if
it is still in the calendar. -/
def ofSeconds? (n : Int) (microsecond : Nat) : Option LocalTime :=
  if n < 0 then none
  else
    let date := Date.ofDayNumber (n.toNat / 86400 + 1)
    if lastYear < date.year then none
    else some ⟨date, TimeOfDay.ofSeconds (n.toNat % 86400) microsecond⟩

/-- The local time a number of seconds later. -/
def shift? (t : LocalTime) (seconds : Int) : Option LocalTime :=
  ofSeconds? (t.seconds + seconds) t.time.microsecond

/-- Whether date and time are both possible. -/
def isValid (t : LocalTime) : Bool := t.date.isValid && t.time.isValid

end LocalTime

namespace OffsetTime

/-- Two times with offsets are equal when they are the same moment; a time
without an offset equals only a time without one. -/
def equals (a b : OffsetTime) : Bool :=
  match a.offset, b.offset with
  | none, none => a.reading == b.reading
  | some x, some y =>
    a.reading.seconds - x == b.reading.seconds - y
      && a.reading.time.microsecond == b.reading.time.microsecond
  | _, _ => false

end OffsetTime

end RelationalSearch
