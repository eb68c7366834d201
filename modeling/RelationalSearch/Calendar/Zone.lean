import RelationalSearch.Calendar.Date

/-!
# Time zones

A zone is an offset from universal time that changes now and then. It is kept as
the offset of its beginning, the changes with their moments, and a rule for the
years after the last change. Moments are seconds since the beginning of the
calendar, in universal time or on the wall clock.

When clocks go back, the wall clock shows a stretch of readings twice, and when
they go forward it skips one. A reading therefore carries a mark that tells the
second occurrence from the first; a skipped reading has the offset before the
change, and with the mark the offset after it.
-/

namespace RelationalSearch

/-- A change that comes every year: the month, which of its weeks (5 being the
last), the day of the week (Sunday being 0), and the seconds since midnight. -/
structure YearlyChange where
  month : Nat
  week : Nat
  weekday : Nat
  seconds : Int
  deriving DecidableEq, Repr, Inhabited

/-- A rule for every year: two offsets and the changes between them, each on the
clock that it ends. -/
structure YearRule where
  standard : Int
  summer : Int
  toSummer : YearlyChange
  toStandard : YearlyChange
  deriving DecidableEq, Repr, Inhabited

/-- A time zone. -/
structure Zone where
  initial : Int
  /-- Moments and the offsets from then on. -/
  changes : List (Int × Int)
  rule : Option YearRule
  deriving DecidableEq, Repr, Inhabited

/-! ### Rules -/

/-- The moment of a yearly change, in seconds on the clock that it ends. -/
def YearlyChange.moment (c : YearlyChange) (year : Nat) : Int :=
  let first : Date := ⟨year, c.month, 1⟩
  let toWeekday := (7 + c.weekday - (first.weekday + 1) % 7) % 7
  let day := 1 + toWeekday + (c.week - 1) * 7
  let day := if Date.daysInMonth year c.month < day then day - 7 else day
  (((Date.daysBeforeYear year + Date.daysBeforeMonth year c.month + day : Nat) : Int) - 1) * 86400
    + c.seconds

namespace YearRule

/-- Whether a moment lies in the summer between two changes; the summer may run
over the turn of the year. -/
def inSummer (start finish moment : Int) : Bool :=
  if start < finish then start ≤ moment && moment < finish
  else !(finish ≤ moment && moment < start)

/-- The offset at a reading of the wall clock. -/
def offsetAtReading (r : YearRule) (year : Nat) (second : Bool) (reading : Int) : Int :=
  let start := r.toSummer.moment year
  let finish := r.toStandard.moment year
  let difference := r.summer - r.standard
  let forward := decide (0 ≤ difference)
  let summer :=
    if second == forward then inSummer start (finish - difference) reading
    else inSummer (start + difference) finish reading
  if summer then r.summer else r.standard

/-- The offset at a moment of universal time in a year, and whether the wall
clock then shows a reading for the second time. -/
def offsetAtMoment (r : YearRule) (year : Nat) (moment : Int) : Int × Bool :=
  let start := r.toSummer.moment year - r.standard
  let finish := r.toStandard.moment year - r.summer
  let difference := r.summer - r.standard
  let repeatedFrom := if 0 < difference then finish else start
  let repeatedFor := if 0 < difference then difference else -difference
  (if inSummer start finish moment then r.summer else r.standard,
    repeatedFrom ≤ moment && moment < repeatedFrom + repeatedFor)

end YearRule

namespace Zone

/-- The zone of one offset. -/
def fixed (offset : Int) : Zone := ⟨offset, [], none⟩

/-! ### Reading of the wall clock to offset -/

/-- The reading from which the offset after a change holds. -/
def changeReading (second : Bool) (before : Int) (change : Int × Int) : Int :=
  change.1 + if second then min before change.2 else max before change.2

/-- The offset of the last change at or before a reading, with the reading of the
last change of all. -/
def scanReadings (second : Bool) (reading before current : Int) (last : Option Int) :
    List (Int × Int) → Int × Option Int
  | [] => (current, last)
  | change :: rest =>
    let from_ := changeReading second before change
    scanReadings second reading change.2 (if from_ ≤ reading then change.2 else current)
      (some from_) rest

/-- The offset at a reading of the wall clock in a year; `second` marks a reading
that is shown for the second time. -/
def offsetAtReading (z : Zone) (year : Nat) (second : Bool) (reading : Int) : Int :=
  let found := scanReadings second reading z.initial z.initial none z.changes
  match z.rule, found.2 with
  | some r, none => r.offsetAtReading year second reading
  | some r, some last => if last < reading then r.offsetAtReading year second reading else found.1
  | none, _ => found.1

/-! ### Moment to offset -/

/-- The offset of the last change at or before a moment, whether the reading is
then shown for the second time, and the moment of the last change of all. -/
def scanMoments (moment before : Int) (current : Int × Bool) (last : Option Int) :
    List (Int × Int) → (Int × Bool) × Option Int
  | [] => (current, last)
  | change :: rest =>
    scanMoments moment change.2
      (if change.1 ≤ moment then (change.2, decide (moment - change.1 < before - change.2)) else current)
      (some change.1) rest

/-- The offset at a moment of universal time in a year, and whether the wall
clock then shows a reading for the second time. -/
def offsetAtMoment (z : Zone) (year : Nat) (moment : Int) : Int × Bool :=
  let found := scanMoments moment z.initial (z.initial, false) none z.changes
  match z.rule, found.2 with
  | some r, none => r.offsetAtMoment year moment
  | some r, some last => if last < moment then r.offsetAtMoment year moment else found.1
  | none, _ => found.1

end Zone

/-! ### Rows of the database -/

/-- A zone as the database writes it. The changes are a text of numbers to the
base 36, each followed by a capital letter: the number is the time since the
change before, the letter is the place of the new offset among the offsets. The
first offset is that of the beginning. -/
structure ZoneRow where
  name : String
  offsets : List Int
  rule : Option YearRule
  changes : List String
  deriving Repr, Inhabited

namespace ZoneRow

/-- The value of a digit to the base 36. -/
def digit (c : Char) : Nat := if c.isDigit then c.toNat - 48 else c.toNat - 87

/-- Reads changes; `moment` is that of the last change and `number` what has been
read of the next one. -/
def readChanges (offsets : List Int) (moment : Int) (number : Nat) : List Char → List (Int × Int)
  | [] => []
  | c :: rest =>
    if c.isUpper then
      let next := moment + number
      (next, offsets.getD (c.toNat - 65) 0) :: readChanges offsets next 0 rest
    else readChanges offsets moment (number * 36 + digit c) rest

/-- The zone of a row. -/
def toZone (r : ZoneRow) : Zone :=
  ⟨r.offsets.headD 0, readChanges r.offsets 0 0 (r.changes.flatMap String.toList), r.rule⟩

end ZoneRow

end RelationalSearch
