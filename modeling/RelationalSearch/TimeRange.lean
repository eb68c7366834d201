import RelationalSearch.Calendar.FreeForm
import RelationalSearch.Calendar.ZonedTime
import RelationalSearch.Checked
import RelationalSearch.Log
import RelationalSearch.Params.Bag

/-!
# Time ranges

A search can be limited to a stretch of time on one column: a day (`date`), the
days from one to another (`date_from`, `date_to`), or from one moment to another
(`datetime_from`, `datetime_to`), in this order of precedence. A missing end is
the present. All times are read and given in one zone.
-/

namespace RelationalSearch

/-- What the clocks show while a search is compiled. -/
structure Clock where
  /-- The present, which ranges without an end reach to. -/
  now : OffsetTime
  /-- The offset of the system's own zone at the present, in which a present without an
  offset is read; the system may not be able to tell. -/
  systemOffset : Except Fault Int
  /-- The day on the system's calendar and the year in which the program began, which texts
  are read against. -/
  origin : FreeForm.Origin
  deriving Repr, Inhabited

/-- A stretch of time on a column. -/
structure TimeRange where
  column : String
  start : Option OffsetTime
  finish : Option OffsetTime
  zoneName : String
  deriving DecidableEq, Repr, Inhabited

namespace TimeRange

/-- The range of a declaration, in universal time. -/
def declared (fields : List (String × Value)) : Checked TimeRange :=
  let column := Checked.required Checked.text fields "column"
  let start := Checked.optional Checked.optionalTime none fields "start"
  let finish := Checked.optional Checked.optionalTime none fields "end"
  match column, start, finish with
  | .ok c, .ok s, .ok f => .ok ⟨c, s, f, "UTC"⟩
  | c, s, f => .error (c.complaints ++ s.complaints ++ f.complaints)

/-- The parameters that speak of time. -/
def parameterNames : List String :=
  ["time_column", "date", "date_from", "date_to", "datetime_from", "datetime_to"]

/-- The time in a zone that a value means. A date is its midnight; a text, and
the text of any other value, is read in free form. -/
def instant (zone : Zone) (origin : FreeForm.Origin) (v : Value) : Except Failure ZonedTime :=
  match v with
  | .datetime t => ZonedTime.ofTime zone t
  | .date d => ZonedTime.ofTime zone ⟨⟨d, TimeOfDay.midnight⟩, none⟩
  | v =>
    match FreeForm.read? v.shown origin with
    | some t => ZonedTime.ofTime zone t
    | none => .error (.refused (.unreadableTime v.shown))

/-- The column of a range: the one that is asked for, if the table has it. -/
def columnOf (params : Bag) (usual : String) (columns : List String) : Logged String :=
  match params.get "time_column" with
  | .null => ⟨[], usual⟩
  | .str c =>
    if columns.contains c then ⟨[], c⟩
    else ⟨[.debug ("Ignoring unknown time column '" ++ c ++ "'")], usual⟩
  | v => ⟨[.debug ("Ignoring unknown time column '" ++ v.shown ++ "'")], usual⟩

/-- The two ends of the range that a bag asks for. -/
def ends (params : Bag) (zone : Zone) (origin : FreeForm.Origin) (present : ZonedTime) :
    Except Failure (ZonedTime × ZonedTime) := do
  let read := fun name => instant zone origin (params.get name)
  if params.filled "date" then
    let day ← read "date"
    return (day.startOfDay, day.endOfDay)
  else if params.filled "date_from" then
    let start ← read "date_from"
    if params.filled "date_to" then
      let finish ← read "date_to"
      return (start.startOfDay, finish.endOfDay)
    else return (start.startOfDay, present)
  else
    let start ← read "datetime_from"
    if params.filled "datetime_to" then
      let finish ← read "datetime_to"
      return (start, finish)
    else return (start, present)

/-- The offset of the present, or of the system's zone when it comes without one. -/
def presentOffset (clock : Clock) : Except Fault Int :=
  match clock.now.offset with
  | some offset => .ok offset
  | none => clock.systemOffset

/-- The present in a zone. -/
def presentIn (zone : Zone) (clock : Clock) : Except Failure ZonedTime := do
  let offset ← (presentOffset clock).mapError .fault
  ZonedTime.ofOffset zone clock.now.reading offset

/-- The range that a bag asks for, on a column of the table. -/
def resolve (params : Bag) (usualColumn zoneName : String) (columns : List String)
    (clock : Clock) : Logged (Except Failure (Option TimeRange)) :=
  let column := columnOf params usualColumn columns
  if !(["date", "date_from", "datetime_from"].any params.filled) then ⟨column.lines, .ok none⟩
  else if !columns.contains column.value then
    ⟨column.lines ++ [.debug ("Time column '" ++ column.value
      ++ "' is not a table column, skipping time range")], .ok none⟩
  else
    ⟨column.lines, do
      let zone ← Zone.ofName zoneName
      let present ← presentIn zone clock
      let (start, finish) ← ends params zone clock.origin present
      return some ⟨column.value, some start.toOffsetTime, some finish.toOffsetTime, zoneName⟩⟩

end TimeRange

end RelationalSearch
