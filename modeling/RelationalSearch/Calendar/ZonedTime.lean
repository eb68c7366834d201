import RelationalSearch.Calendar.ZoneTable

/-!
# Times in a zone

A time in a zone is a reading of the wall clock there, with a mark for readings
that are shown for the second time. Its offset follows from the zone. The
beginning and the end of its day are readings of the same date that keep the
mark.
-/

namespace RelationalSearch

/-- A reading of the wall clock of a zone. -/
structure ZonedTime where
  zone : Zone
  reading : LocalTime
  /-- Whether the reading is shown for the second time. -/
  second : Bool
  deriving DecidableEq, Repr, Inhabited

namespace ZonedTime

/-- The offset from universal time. -/
def offset (t : ZonedTime) : Int :=
  t.zone.offsetAtReading t.reading.date.year t.second t.reading.seconds

/-- The time with its offset. -/
def toOffsetTime (t : ZonedTime) : OffsetTime := ⟨t.reading, some t.offset⟩

/-- The same time of another time of day. -/
def atTime (t : ZonedTime) (time : TimeOfDay) : ZonedTime :=
  { t with reading := { t.reading with time := time } }

/-- The first moment of the day. -/
def startOfDay (t : ZonedTime) : ZonedTime := t.atTime TimeOfDay.midnight

/-- The last moment of the day. -/
def endOfDay (t : ZonedTime) : ZonedTime := t.atTime TimeOfDay.lastMoment

/-- The time in a zone at a time with an offset. An offset of a day or more is
impossible; a time outside the calendar, there or in universal time, is out of
reach. -/
def ofOffset (zone : Zone) (reading : LocalTime) (offset : Int) : Except Failure ZonedTime :=
  if offset ≤ -86400 || 86400 ≤ offset then .error (.fault .badValue)
  else match reading.shift? (-offset) with
    | none => .error (.fault .outOfCalendar)
    | some universal =>
      let there := zone.offsetAtMoment universal.date.year universal.seconds
      match universal.shift? there.1 with
      | none => .error (.fault .outOfCalendar)
      | some reading => .ok ⟨zone, reading, there.2⟩

/-- The time in a zone that is meant by a time with or without an offset; without
one it is a reading of the zone's own clock. -/
def ofTime (zone : Zone) (t : OffsetTime) : Except Failure ZonedTime :=
  match t.offset with
  | none => .ok ⟨zone, t.reading, false⟩
  | some offset => ofOffset zone t.reading offset

end ZonedTime

end RelationalSearch
