import RelationalSearch.Proofs.Escapes
import RelationalSearch.Proofs.ZoneCourse

/-!
# Whole days

A range that is asked for by days begins at the midnight of the first day and ends with the
last microsecond of the last, both set on the clock of the zone. Whether it then holds just
the instants of these days depends on what the clock does around the two midnights, and on
the mark of the time that was read, since setting the time of day keeps the mark. The exact
condition is stated for each end (`RelationalSearch.ZonedTime.startOfDay_iff`,
`RelationalSearch.ZonedTime.endOfDay_iff`); where both hold, the range is right for every
moment that the zone can be asked about
(`RelationalSearch.TimeRange.wholeDays_of_ends`). The range of a search is made of two such
ends in the zone of its entity (`RelationalSearch.TimeRange.of_resolve`).

A day may begin later than at midnight, because the clock is put forward from it, and the
range is still right. What goes wrong is a last hour of the day that is shown twice: the
range ends with its first occurrence
(`RelationalSearch.TimeRange.not_wholeDays_of_ends`).
-/

namespace RelationalSearch

/-- The instant of a time with an offset, in microseconds of universal time from the
beginning of the calendar. -/
def OffsetTime.instant (t : OffsetTime) : Int :=
  (t.reading.seconds - t.offset.getD 0) * 1000000 + t.reading.time.microsecond

/-- The number of the day that it is in a zone at an instant. -/
def Zone.dayAt (z : Zone) (instant : Int) : Int :=
  z.course.clock (instant / 1000000) / 86400 + 1

/-- The clock passes the first reading of a day where the day begins. -/
theorem Zone.passes_iff {z : Zone} {day second : Int} :
    z.course.Passes ((day - 1) * 86400) second ↔ ∀ i, second * 1000000 ≤ i ↔ day ≤ z.dayAt i := by
  constructor
  · intro hpasses i
    have := hpasses (i / 1000000)
    rw [dayAt]
    omega
  · intro hall x
    have := hall (x * 1000000)
    rw [dayAt, Int.mul_ediv_cancel _ (by decide)] at this
    omega

/-- Whether a value, if it is a date or a time, is one that there is. -/
def Value.InCalendar : Value → Prop
  | .date d => d.isValid = true
  | .datetime t => t.reading.isValid = true
  | _ => True

/-- The values of a request are texts for dates, if anything. -/
theorem Bag.inCalendar_get {entries : List (Value × Value)} {bag : Bag}
    (h : Bag.ofTable entries = .ok bag) (key : String) : (bag.get key).InCalendar := by
  have hkept := Bag.isKept_get h key
  revert hkept
  cases bag.get key with
  | date | datetime => exact fun hkept => by cases hkept
  | _ => exact fun _ => trivial

namespace LocalTime

variable {t shifted : LocalTime} {seconds : Int}

theorem microsecond_lt (h : t.isValid = true) : t.time.microsecond < 1000000 := by
  simp only [isValid, TimeOfDay.isValid, Bool.and_eq_true, decide_eq_true_eq] at h
  exact h.2.2

/-- The second of a time says which day it is. -/
theorem dayNumber_eq (h : t.isValid = true) : (t.date.dayNumber : Int) = t.seconds / 86400 + 1 := by
  simp only [isValid, TimeOfDay.isValid, Bool.and_eq_true, decide_eq_true_eq] at h
  rw [LocalTime.seconds, TimeOfDay.seconds]
  omega

/-- A shifted time is one that there is, so many seconds later. -/
theorem of_shift? (h : t.isValid = true) (hshift : t.shift? seconds = some shifted) :
    shifted.isValid = true ∧ shifted.seconds = t.seconds + seconds ∧
      shifted.time.microsecond = t.time.microsecond :=
  ⟨isValid_of_ofSeconds? hshift (microsecond_lt h), of_ofSeconds? hshift⟩

end LocalTime

namespace ZonedTime

variable {zone : Zone} {reading : LocalTime} {offset : Int} {t there : ZonedTime}

/-- The number of the day of a time in a zone. -/
def day (t : ZonedTime) : Int := t.reading.date.dayNumber

/-- The first reading of the day. -/
def midnight (t : ZonedTime) : Int := (t.day - 1) * 86400

/-- **Whether the day of a time can begin at its midnight**, for the occurrence that is
meant. -/
def DayBegins (t : ZonedTime) : Prop := t.zone.course.Begins t.second t.midnight

/-- **Whether the day of a time can end before the next midnight**, for the occurrence that
is meant. -/
def DayEnds (t : ZonedTime) : Prop := t.zone.course.Ends t.second (t.midnight + 86400)

/-- Days with the same number have the same date. -/
theorem day_eq_iff (h : t.reading.isValid = true) (h' : there.reading.isValid = true) :
    t.day = there.day ↔ t.reading.date = there.reading.date := by
  rw [LocalTime.isValid, Bool.and_eq_true, Date.isValid_iff] at h h'
  refine ⟨fun hday => h.1.1.dayNumber_inj h'.1.1 (Int.ofNat.inj hday), fun hdate => ?_⟩
  rw [day, day, hdate]

/-! ### Times in a zone -/

/-- **What a zone shows at a time with an offset** is a reading that there is, of the day
that it is in the zone at this instant. -/
theorem of_ofOffset (hvalid : reading.isValid = true)
    (h : ofOffset zone reading offset = .ok there) :
    there.zone = zone ∧ there.reading.isValid = true ∧
      zone.dayAt (OffsetTime.instant ⟨reading, some offset⟩) = there.day := by
  rw [ofOffset] at h
  split at h
  · cases h
  · split at h
    · cases h
    · rename_i universal huniversal
      obtain ⟨huvalid, huseconds, -⟩ := LocalTime.of_shift? hvalid huniversal
      dsimp only at h
      split at h
      · cases h
      · rename_i shown hshown
        cases h
        obtain ⟨hsvalid, hsseconds, -⟩ := LocalTime.of_shift? huvalid hshown
        have hmicro := LocalTime.microsecond_lt hvalid
        have hinstant : OffsetTime.instant ⟨reading, some offset⟩ / 1000000 =
            universal.seconds := by
          rw [huseconds]
          show ((reading.seconds - offset) * 1000000 + (reading.time.microsecond : Int)) /
            1000000 = _
          omega
        have hclock : zone.course.clock universal.seconds = shown.seconds := by
          rw [hsseconds, ← LocalTime.dateAt_seconds huvalid]
          rfl
        refine ⟨rfl, hsvalid, ?_⟩
        rw [Zone.dayAt, hinstant, hclock]
        exact (LocalTime.dayNumber_eq hsvalid).symm

/-- A time in a zone is one that there is if the time that it comes from is. -/
theorem of_ofTime {time : OffsetTime} (hvalid : time.reading.isValid = true)
    (h : ofTime zone time = .ok there) : there.zone = zone ∧ there.reading.isValid = true := by
  rw [ofTime] at h
  split at h
  · cases h
    exact ⟨rfl, hvalid⟩
  · obtain ⟨hzone, hthere, -⟩ := of_ofOffset hvalid h
    exact ⟨hzone, hthere⟩

/-! ### The two ends of a day -/

theorem offset_eq (h : t.reading.isValid = true) :
    t.offset = t.zone.course.resolved t.second t.reading.seconds := by
  rw [offset, ← LocalTime.dateAt_seconds h]
  rfl

/-- The time of day does not matter for whether there is a day. -/
theorem isValid_atTime {time : TimeOfDay} (h : t.reading.isValid = true)
    (htime : time.isValid = true) :
    (t.atTime time).reading.isValid = true := by
  rw [LocalTime.isValid, Bool.and_eq_true] at h
  exact Bool.and_eq_true_iff.mpr ⟨h.1, htime⟩

/-- The instant at which the time of day is set on the clock. -/
theorem instant_atTime {time : TimeOfDay} (h : t.reading.isValid = true)
    (htime : time.isValid = true) :
    (t.atTime time).toOffsetTime.instant =
      (t.midnight + time.seconds - t.zone.course.resolved t.second (t.midnight + time.seconds)) *
        1000000 + time.microsecond := by
  have hoffset := offset_eq (isValid_atTime h htime)
  show ((t.atTime time).reading.seconds - (t.atTime time).offset) * 1000000 + _ = _
  rw [hoffset]
  rfl

/-- **The beginning of a day is right** – from there on it is this day or a later one, and
before it an earlier one – exactly when the day can begin at its midnight. -/
theorem startOfDay_iff (hzone : t.zone.InOrder) (h : t.reading.isValid = true) :
    (∀ i, t.startOfDay.toOffsetTime.instant ≤ i ↔ t.day ≤ t.zone.dayAt i) ↔ t.DayBegins := by
  have hinstant := instant_atTime h (show TimeOfDay.midnight.isValid = true from rfl)
  have hseconds : t.midnight + (TimeOfDay.midnight.seconds : Int) = t.midnight := Int.add_zero _
  have hmicro : (TimeOfDay.midnight.microsecond : Int) = 0 := rfl
  rw [hseconds, hmicro, Int.add_zero] at hinstant
  rw [startOfDay, hinstant, ← Zone.passes_iff]
  exact hzone.sound.begins_iff _ _

/-- **The end of a day is right** – up to there it is this day or an earlier one, and after
it a later one – exactly when the day can end before the next midnight. -/
theorem endOfDay_iff (hzone : t.zone.InOrder) (h : t.reading.isValid = true) :
    (∀ i, i ≤ t.endOfDay.toOffsetTime.instant ↔ t.zone.dayAt i ≤ t.day) ↔ t.DayEnds := by
  have hinstant := instant_atTime h (show TimeOfDay.lastMoment.isValid = true from rfl)
  have hseconds : t.midnight + (TimeOfDay.lastMoment.seconds : Int) = t.midnight + 86400 - 1 :=
    (Int.add_sub_assoc _ 86400 1).symm
  have hmicro : (TimeOfDay.lastMoment.microsecond : Int) = 999999 := rfl
  have hnext : (t.day + 1 - 1) * 86400 = t.midnight + 86400 := by
    rw [midnight]
    omega
  rw [hseconds, hmicro] at hinstant
  rw [DayEnds, ← hzone.sound.ends_iff, ← hnext, Zone.passes_iff, endOfDay, hinstant, hnext]
  -- The day ends where the next one begins, a microsecond before it.
  refine forall_congr' fun i => ?_
  omega

end ZonedTime

/-! ### Times that are read -/

namespace FreeForm

variable {text : String} {origin : Origin} {d next : Date} {weekday : Nat} {t : OffsetTime}

/-- The next day that falls on a day of the week is one that there is. -/
theorem isValid_of_onWeekday? (h : d.isValid = true) (hnext : onWeekday? d weekday = some next) :
    next.isValid = true := by
  have hpos : 1 ≤ d.dayNumber := Nat.one_le_of_lt (Date.isValid_iff.mp h).1.year_bounds.1
  simp only [onWeekday?, Option.ite_none_left_eq_some, Option.some.injEq] at hnext
  obtain ⟨hyear, rfl⟩ := hnext
  exact Date.isValid_iff.mpr ⟨Date.exists_ofDayNumber (by omega), Nat.le_of_not_lt hyear⟩

/-- The time that a reading means is one that there is. -/
theorem isValid_of_toTime? {r : Reading} (h : r.toTime? origin = some t) :
    t.reading.isValid = true := by
  obtain ⟨parts, -, h⟩ := Option.bind_eq_some_iff.mp h
  simp only [Option.ite_none_left_eq_some, Bool.not_eq_true', Bool.not_eq_false] at h
  obtain ⟨-, -, hvalid, h⟩ := h
  rw [Bool.and_eq_true] at hvalid
  split at h
  · obtain ⟨next, hnext, h⟩ := Option.bind_eq_some_iff.mp h
    cases h
    exact Bool.and_eq_true_iff.mpr ⟨isValid_of_onWeekday? hvalid.1 hnext, hvalid.2⟩
  · cases h
    exact Bool.and_eq_true_iff.mpr hvalid

/-- **A time in free form is one that there is**, or it is not read. -/
theorem isValid_of_read? (h : read? text origin = some t) : t.reading.isValid = true := by
  rw [read?] at h
  split at h
  · exact isValid_of_toTime? h
  · cases h

end FreeForm

namespace TimeRange

variable {params : Bag} {zone : Zone} {origin : FreeForm.Origin}
  {present start finish : ZonedTime}

/-- A value that means a time means one that there is, in the zone. -/
theorem of_instant {v : Value} {there : ZonedTime} (hv : v.InCalendar)
    (h : instant zone origin v = .ok there) : there.zone = zone ∧ there.reading.isValid = true := by
  unfold instant at h
  -- In each case it is the time that is brought into the zone which has to be one.
  split at h
  next t =>
    refine ZonedTime.of_ofTime ?_ h
    exact hv
  next d =>
    refine ZonedTime.of_ofTime ?_ h
    exact Bool.and_eq_true_iff.mpr ⟨hv, rfl⟩
  next =>
    split at h
    next t hread =>
      refine ZonedTime.of_ofTime ?_ h
      exact FreeForm.isValid_of_read? hread
    next => cases h

/-- The parameters that give the first and the last day. -/
def dayKeys (params : Bag) : String × String :=
  if params.filled "date" then ("date", "date") else ("date_from", "date_to")

/-- Whether a bag asks for a range by days. -/
def ByDays (params : Bag) : Prop :=
  params.filled "date" = true ∨ params.filled "date_from" = true ∧ params.filled "date_to" = true

/-- A range by days is made of the day of its first and the day of its last parameter. -/
theorem of_ends (hdays : ByDays params)
    (h : ends params zone origin present = .ok (start, finish)) :
    ∃ first last, instant zone origin (params.get (dayKeys params).1) = .ok first ∧
      instant zone origin (params.get (dayKeys params).2) = .ok last ∧
      start = first.startOfDay ∧ finish = last.endOfDay := by
  rw [ends] at h
  rw [dayKeys]
  cases hdate : params.filled "date" with
  | true =>
    rw [hdate] at h
    obtain ⟨day, hday, h⟩ := exists_of_bind_ok h
    cases h
    exact ⟨day, day, hday, hday, rfl, rfl⟩
  | false =>
    obtain ⟨hfrom, hto⟩ := hdays.resolve_left (by rw [hdate]; decide)
    rw [hdate, hfrom, hto] at h
    obtain ⟨first, hfirst, h⟩ := exists_of_bind_ok h
    obtain ⟨last, hlast, h⟩ := exists_of_bind_ok h
    cases h
    exact ⟨first, last, hfirst, hlast, rfl, rfl⟩

/-- The range of a search is made of two ends in its zone. -/
theorem of_resolve {usualColumn zoneName : String} {columns : List String} {clock : Clock}
    {range : TimeRange}
    (h : (resolve params usualColumn zoneName columns clock).value = .ok (some range)) :
    ∃ zone present start finish, Zone.ofName zoneName = .ok zone ∧
      ends params zone clock.origin present = .ok (start, finish) ∧
      range.start = some start.toOffsetTime ∧ range.finish = some finish.toOffsetTime := by
  rw [resolve] at h
  dsimp only at h
  split at h
  · cases h
  · split at h
    · cases h
    · obtain ⟨zone, hzone, h⟩ := exists_of_bind_ok h
      obtain ⟨present, -, h⟩ := exists_of_bind_ok h
      obtain ⟨⟨start, finish⟩, hends, h⟩ := exists_of_bind_ok h
      cases h
      exact ⟨zone, present, start, finish, hzone, hends, rfl, rfl⟩

/-- Whether a time with an offset lies between two times of a zone, or at one of them. -/
def Within (start finish : ZonedTime) (time : OffsetTime) : Prop :=
  start.toOffsetTime.instant ≤ time.instant ∧ time.instant ≤ finish.toOffsetTime.instant

/-- **A range by days holds just the instants of these days**, whenever the first day can
begin at its midnight and the last day can end before the next midnight: a moment that can
be brought into the zone lies in the range if and only if its day there is from the first to
the last, which for one day means that its date is the one that was asked for. The two
conditions are exact, each for its end of the range, and hold it to the microsecond. -/
theorem wholeDays_of_ends (hzone : zone.InOrder) (hparams : ∀ key, (params.get key).InCalendar)
    (hdays : ByDays params) (h : ends params zone origin present = .ok (start, finish)) :
    ∃ first last, instant zone origin (params.get (dayKeys params).1) = .ok first ∧
      instant zone origin (params.get (dayKeys params).2) = .ok last ∧
      (first.DayBegins ↔ ∀ i, start.toOffsetTime.instant ≤ i ↔ first.day ≤ zone.dayAt i) ∧
      (last.DayEnds ↔ ∀ i, i ≤ finish.toOffsetTime.instant ↔ zone.dayAt i ≤ last.day) ∧
      (first.DayBegins → last.DayEnds → ∀ reading offset there, reading.isValid = true →
        ZonedTime.ofOffset zone reading offset = .ok there →
        (Within start finish ⟨reading, some offset⟩ ↔
          first.day ≤ there.day ∧ there.day ≤ last.day) ∧
        (params.filled "date" = true →
          (Within start finish ⟨reading, some offset⟩ ↔
            there.reading.date = first.reading.date))) := by
  obtain ⟨first, last, hfirst, hlast, rfl, rfl⟩ := of_ends hdays h
  obtain ⟨hfzone, hfvalid⟩ := of_instant (hparams _) hfirst
  obtain ⟨hlzone, hlvalid⟩ := of_instant (hparams _) hlast
  have hstart := ZonedTime.startOfDay_iff (hfzone.symm ▸ hzone) hfvalid
  have hfinish := ZonedTime.endOfDay_iff (hlzone.symm ▸ hzone) hlvalid
  rw [hfzone] at hstart
  rw [hlzone] at hfinish
  refine ⟨first, last, hfirst, hlast, hstart.symm, hfinish.symm,
    fun hbegins hends reading offset there hvalid hthere => ?_⟩
  obtain ⟨-, hvalid', hday⟩ := ZonedTime.of_ofOffset hvalid hthere
  have hwithin : Within first.startOfDay last.endOfDay ⟨reading, some offset⟩ ↔
      first.day ≤ there.day ∧ there.day ≤ last.day := by
    rw [Within, hstart.mpr hbegins, hfinish.mpr hends, hday]
  refine ⟨hwithin, fun hdate => hwithin.trans ?_⟩
  have hsame : first = last := by
    rw [dayKeys, if_pos hdate] at hfirst hlast
    exact Except.ok.inj (hfirst.symm.trans hlast)
  rw [← hsame, ← ZonedTime.day_eq_iff hvalid' hfvalid]
  exact ⟨fun h => Int.le_antisymm h.2 h.1, fun h => ⟨Int.le_of_eq h.symm, Int.le_of_eq h⟩⟩

end TimeRange

/-! ### A clock that is changed at midnight -/

namespace Shore

/-- In spring the clock is put forward from midnight, in autumn it is put back at
midnight. -/
def rule : YearRule := ⟨7200, 10800, ⟨3, 5, 0, 0⟩, ⟨10, 5, 0, 0⟩⟩

def zone : Zone := ⟨7200, [], some rule⟩

/-- Dates are read on a day in May. -/
def origin : FreeForm.Origin := ⟨⟨2024, 5, 10⟩, 2024⟩

def present : ZonedTime := ⟨zone, ⟨origin.day, TimeOfDay.midnight⟩, false⟩

/-- The midnight of a day on the clock of the shore. -/
def midnightOf (d : Date) : ZonedTime := ⟨zone, ⟨d, TimeOfDay.midnight⟩, false⟩

/-- From the day whose midnight is skipped to a day in summer. -/
def spring : Bag := .ofEntries [("date_from", .str "2024-03-31"), ("date_to", .str "2024-05-01")]

/-- The day whose last hour is shown twice. -/
def autumn : Bag := .ofEntries [("date", .str "2024-10-26")]

theorem inOrder_rule : rule.InOrder :=
  YearRule.inOrder_of_plain (by decide) (by decide) (by constructor <;> decide)
    (by constructor <;> decide) (Or.inl (by decide))

theorem inOrder_zone : zone.InOrder := .yearly 7200 inOrder_rule

theorem alternates_rule : rule.Alternates 7200 10800 rule.summerBegins rule.summerEnds :=
  YearRule.alternates_of_begins inOrder_rule <|
    YearRule.apart_of_plain (by constructor <;> decide) (by constructor <;> decide) (by decide)
      (by decide) (by decide)

theorem small_zone : zone.course.Small := alternates_rule.small

/-- In 2024 the clock is put forward at 22 hours of universal time on the 30th of March, and
back at 21 hours on the 26th of October. -/
theorem near_twice {n : Int} (h : yearAt n = 2024) :
    (Course.twice 7200 10800 63847432800 63865573200).Near zone.course n := by
  have hnear := alternates_rule.near n
  have hbegins : rule.summerBegins 2024 = 63847432800 := by decide +kernel
  have hends : rule.summerEnds 2024 = 63865573200 := by decide +kernel
  rw [h, hbegins, hends] at hnear
  exact hnear

/-- A day begins where the clock is put forward from its midnight. -/
theorem dayBegins_spring : (midnightOf ⟨2024, 3, 31⟩).DayBegins := by
  have hmidnight : (midnightOf ⟨2024, 3, 31⟩).midnight = 63847440000 := by decide +kernel
  rw [ZonedTime.DayBegins, hmidnight]
  refine Course.Begins.near ⟨63847432800, fun x => ?_, Or.inr rfl⟩
    (Course.small_twice (by decide) (by decide)) small_zone
    (near_twice (by decide +kernel))
  rw [Course.twice_clock]
  split_ifs <;> omega

/-- A day in summer ends as usual. -/
theorem dayEnds_summer : (midnightOf ⟨2024, 5, 1⟩).DayEnds := by
  have hmidnight : (midnightOf ⟨2024, 5, 1⟩).midnight = 63850118400 := by decide +kernel
  rw [ZonedTime.DayEnds, hmidnight]
  have hnear : (Course.constant 10800).Near zone.course (63850118400 + 86400) := by
    intro x hfrom hto
    rw [← near_twice (by decide +kernel) x hfrom hto, Course.twice_offset]
    show 10800 = _
    split_ifs <;> omega
  exact (Course.begins_and_ends_of_near_constant (by decide) small_zone hnear false).2

theorem inCalendar_spring : ∀ key, (spring.get key).InCalendar :=
  Bag.inCalendar_get (show Bag.ofTable [(.str "date_from", .str "2024-03-31"),
    (.str "date_to", .str "2024-05-01")] = .ok spring from rfl)

end Shore

/-- A range by days that begins with a day without midnight. -/
theorem TimeRange.wholeDays_of_ends_spring :
    ∃ start finish, ends Shore.spring Shore.zone Shore.origin Shore.present = .ok (start, finish) ∧
      ∀ reading offset there, reading.isValid = true →
        ZonedTime.ofOffset Shore.zone reading offset = .ok there →
        (Within start finish ⟨reading, some offset⟩ ↔
          (Shore.midnightOf ⟨2024, 3, 31⟩).day ≤ there.day ∧
            there.day ≤ (Shore.midnightOf ⟨2024, 5, 1⟩).day) := by
  obtain ⟨⟨start, finish⟩, hends⟩ := exists_of_toBool
    (x := ends Shore.spring Shore.zone Shore.origin Shore.present) (by decide +kernel)
  obtain ⟨first, last, hfirst, hlast, -, -, hwithin⟩ := wholeDays_of_ends Shore.inOrder_zone
    Shore.inCalendar_spring (Or.inr (by decide +kernel)) hends
  have hfirst' : instant Shore.zone Shore.origin (Shore.spring.get (dayKeys Shore.spring).1) =
      .ok (Shore.midnightOf ⟨2024, 3, 31⟩) := by decide +kernel
  have hlast' : instant Shore.zone Shore.origin (Shore.spring.get (dayKeys Shore.spring).2) =
      .ok (Shore.midnightOf ⟨2024, 5, 1⟩) := by decide +kernel
  cases hfirst.symm.trans hfirst'
  cases hlast.symm.trans hlast'
  exact ⟨start, finish, hends, fun reading offset there hvalid hthere =>
    (hwithin Shore.dayBegins_spring Shore.dayEnds_summer reading offset there hvalid hthere).1⟩

/-- **The last hour of a day that is shown twice** is missed by the range for the day, the
second time. -/
theorem TimeRange.not_wholeDays_of_ends :
    ∃ start finish there,
      ends Shore.autumn Shore.zone Shore.origin Shore.present = .ok (start, finish) ∧
      ZonedTime.ofOffset Shore.zone ⟨⟨2024, 10, 26⟩, ⟨21, 30, 0, 0⟩⟩ 0 = .ok there ∧
      there.reading.date = ⟨2024, 10, 26⟩ ∧
      ¬ Within start finish ⟨⟨⟨2024, 10, 26⟩, ⟨21, 30, 0, 0⟩⟩, some 0⟩ := by
  have hends : ends Shore.autumn Shore.zone Shore.origin Shore.present =
      .ok ((Shore.midnightOf ⟨2024, 10, 26⟩).startOfDay,
        (Shore.midnightOf ⟨2024, 10, 26⟩).endOfDay) := by decide +kernel
  have hthere : ZonedTime.ofOffset Shore.zone ⟨⟨2024, 10, 26⟩, ⟨21, 30, 0, 0⟩⟩ 0 =
      .ok ⟨Shore.zone, ⟨⟨2024, 10, 26⟩, ⟨23, 30, 0, 0⟩⟩, true⟩ := by decide +kernel
  refine ⟨_, _, _, hends, hthere, rfl, fun hwithin => ?_⟩
  have hlate : ¬ OffsetTime.instant ⟨⟨⟨2024, 10, 26⟩, ⟨21, 30, 0, 0⟩⟩, some 0⟩ ≤
      (Shore.midnightOf ⟨2024, 10, 26⟩).endOfDay.toOffsetTime.instant := by decide +kernel
  exact hlate hwithin.2

end RelationalSearch
