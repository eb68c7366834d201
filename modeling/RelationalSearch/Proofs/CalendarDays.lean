import Mathlib.Algebra.Order.BigOperators.Group.List
import Mathlib.Algebra.Order.Ring.Nat
import Mathlib.Tactic.Ring
import RelationalSearch.Calendar.Date

/-!
# Days by number

A date has a number and a number has a date. The two are inverse to each other
(`RelationalSearch.Date.dayNumber_ofDayNumber`,
`RelationalSearch.Date.ofDayNumber_dayNumber`), although the one adds up the days of years
and months and the other takes cycles of 400, 100 and 4 years apart. So a local time and
its second of the calendar determine each other, and the year of a second
(`RelationalSearch.yearAt`) is the one between whose first seconds it lies.
-/

namespace RelationalSearch

namespace Date

variable {year year' month month' first n k number : Nat} {d d' : Date}

/-! ### Years and months -/

/-- The number of days of a year. -/
def daysInYear (year : Nat) : Nat := if isLeap year then 366 else 365

/-- **A year follows the year before.** -/
theorem daysBeforeYear_succ (h : 1 ≤ year) :
    daysBeforeYear (year + 1) = daysBeforeYear year + daysInYear year := by
  obtain ⟨y, rfl⟩ := Nat.exists_eq_add_of_le' h
  have hle : y / 100 ≤ y / 4 := Nat.div_le_div_left (by decide) (by decide)
  simp only [daysBeforeYear, daysInYear, isLeap, Nat.add_sub_cancel, Bool.and_eq_true,
    Bool.or_eq_true, beq_iff_eq, bne_iff_ne, ← Nat.dvd_iff_mod_eq_zero, ne_eq,
    Nat.succ_div (a := y)]
  generalize y / 4 = q4 at *
  generalize y / 100 = q100 at *
  generalize y / 400 = q400 at *
  split_ifs <;> omega

theorem daysBeforeYear_mono (h : year ≤ year') : daysBeforeYear year ≤ daysBeforeYear year' := by
  have hmono : Monotone fun y => daysBeforeYear (y + 1) := monotone_nat_of_le_succ fun y => by
    rw [daysBeforeYear_succ (show 1 ≤ y + 1 from Nat.succ_pos y)]
    exact Nat.le_add_right _ _
  exact hmono (Nat.sub_le_sub_right h 1)

theorem daysBeforeMonth_eq_sum :
    daysBeforeMonth year month = ((monthLengths year).take (month - 1)).sum :=
  List.sum_eq_foldl.symm

theorem month_lt_length (hfirst : 1 ≤ month) (hlast : month ≤ 12) :
    month - 1 < (monthLengths year).length := by
  show month - 1 < 12
  omega

theorem daysInMonth_eq_getElem (h : month - 1 < (monthLengths year).length) :
    daysInMonth year month = (monthLengths year)[month - 1] := by
  rw [daysInMonth, List.getD_eq_getElem?_getD, List.getElem?_eq_getElem h, Option.getD_some]

/-- **A month follows the month before.** -/
theorem daysBeforeMonth_succ (hfirst : 1 ≤ month) (hlast : month ≤ 12) :
    daysBeforeMonth year (month + 1) = daysBeforeMonth year month + daysInMonth year month := by
  have hnext : month + 1 - 1 = month - 1 + 1 := by omega
  rw [daysBeforeMonth_eq_sum, daysBeforeMonth_eq_sum, hnext,
    List.sum_take_succ _ _ (month_lt_length hfirst hlast), daysInMonth_eq_getElem]

theorem daysBeforeMonth_mono (h : month ≤ month') :
    daysBeforeMonth year month ≤ daysBeforeMonth year month' := by
  rw [daysBeforeMonth_eq_sum, daysBeforeMonth_eq_sum]
  exact (List.take_sublist_take_left (by omega)).sum_le_sum fun _ _ => Nat.zero_le _

/-- A month has 28 days or more. -/
theorem le_daysInMonth (hfirst : 1 ≤ month) (hlast : month ≤ 12) : 28 ≤ daysInMonth year month := by
  have hall : ∀ length ∈ monthLengths year, 28 ≤ length := by
    rw [monthLengths]
    split <;> decide
  rw [daysInMonth_eq_getElem (month_lt_length hfirst hlast)]
  exact hall _ (List.getElem_mem _)

/-- Between the beginnings of two months there are 28 days or more. -/
theorem daysBeforeMonth_lt (year : Nat) (hfirst : 1 ≤ month) (hlt : month < month')
    (hlast : month' ≤ 13) :
    daysBeforeMonth year month + 28 ≤ daysBeforeMonth year month' := by
  refine Nat.le_trans ?_ (daysBeforeMonth_mono (show month + 1 ≤ month' from hlt))
  rw [daysBeforeMonth_succ hfirst (by omega)]
  exact Nat.add_le_add_left (le_daysInMonth hfirst (by omega)) _

/-- Twelve months make a year. -/
theorem sum_monthLengths : (monthLengths year).sum = daysInYear year := by
  rw [monthLengths, daysInYear]
  split <;> rfl

theorem daysBeforeMonth_last (year : Nat) : daysBeforeMonth year 13 = daysInYear year := by
  rw [daysBeforeMonth_eq_sum, ← sum_monthLengths]
  rfl

/-! ### Dates there are -/

/-- **A date that is in the calendar**, however far ahead its year is. -/
structure Exists (d : Date) : Prop where
  year_pos : 1 ≤ d.year
  month_pos : 1 ≤ d.month
  month_le : d.month ≤ 12
  day_pos : 1 ≤ d.day
  day_le : d.day ≤ daysInMonth d.year d.month

theorem isValid_iff : d.isValid = true ↔ d.Exists ∧ d.year ≤ lastYear := by
  simp only [isValid, Bool.and_eq_true, decide_eq_true_eq]
  constructor
  · rintro ⟨⟨⟨⟨⟨hyear, hlast⟩, hmonth⟩, hmonth'⟩, hday⟩, hday'⟩
    exact ⟨⟨hyear, hmonth, hmonth', hday, hday'⟩, hlast⟩
  · rintro ⟨⟨hyear, hmonth, hmonth', hday, hday'⟩, hlast⟩
    exact ⟨⟨⟨⟨⟨hyear, hlast⟩, hmonth⟩, hmonth'⟩, hday⟩, hday'⟩

/-- The days of a month lie between the days before it and those before the next. -/
theorem Exists.month_bounds (h : d.Exists) :
    daysBeforeMonth d.year d.month < daysBeforeMonth d.year d.month + d.day ∧
      daysBeforeMonth d.year d.month + d.day ≤ daysBeforeMonth d.year (d.month + 1) := by
  have hday := h.day_pos
  rw [daysBeforeMonth_succ h.month_pos h.month_le]
  exact ⟨by omega, Nat.add_le_add_left h.day_le _⟩

/-- The days of a year lie between the days before it and those before the next. -/
theorem Exists.year_bounds (h : d.Exists) :
    daysBeforeYear d.year < d.dayNumber ∧ d.dayNumber ≤ daysBeforeYear (d.year + 1) := by
  obtain ⟨hbefore, hafter⟩ := h.month_bounds
  have hyear : daysBeforeMonth d.year (d.month + 1) ≤ daysInYear d.year :=
    daysBeforeMonth_last d.year ▸ daysBeforeMonth_mono (Nat.succ_le_succ h.month_le)
  rw [dayNumber, daysBeforeYear_succ h.year_pos]
  omega

/-- Between two steps of a monotone count there is one place for a number. -/
theorem eq_of_between {f : Nat → Nat} (hf : ∀ i j, i ≤ j → f i ≤ f j) {i j : Nat}
    (hi : f i < n ∧ n ≤ f (i + 1)) (hj : f j < n ∧ n ≤ f (j + 1)) : i = j := by
  refine Nat.le_antisymm (Nat.le_of_not_lt fun hlt => ?_) (Nat.le_of_not_lt fun hlt => ?_)
  · exact absurd (hi.1.trans_le (hj.2.trans (hf (j + 1) i hlt))) (Nat.lt_irrefl _)
  · exact absurd (hj.1.trans_le (hi.2.trans (hf (i + 1) j hlt))) (Nat.lt_irrefl _)

/-- **Dates with the same number are the same.** -/
theorem Exists.dayNumber_inj (h : d.Exists) (h' : d'.Exists) (hsame : d.dayNumber = d'.dayNumber) :
    d = d' := by
  have hyear : d.year = d'.year := by
    refine eq_of_between (fun _ _ => daysBeforeYear_mono) h.year_bounds ?_
    rw [hsame]
    exact h'.year_bounds
  rw [dayNumber, dayNumber, hyear] at hsame
  have hsame : daysBeforeMonth d'.year d.month + d.day =
      daysBeforeMonth d'.year d'.month + d'.day := by
    omega
  have hmonth : d.month = d'.month := by
    refine eq_of_between (fun _ _ => daysBeforeMonth_mono) (hyear ▸ h.month_bounds) ?_
    rw [hsame]
    exact h'.month_bounds
  rw [hmonth] at hsame
  have hday : d.day = d'.day := Nat.add_left_cancel hsame
  obtain ⟨year, month, day⟩ := d
  obtain ⟨year', month', day'⟩ := d'
  cases hyear
  cases hmonth
  cases hday
  rfl

/-! ### From a number to its date -/

/-- **The days of a row of months, one by one**: each is a day of one of the months, after
all the days of the months before it. -/
theorem inMonths_spec (first : Nat) {lengths : List Nat} (hn : n < lengths.sum) :
    ∃ i < lengths.length, (inMonths first lengths n).1 = first + i ∧
      1 ≤ (inMonths first lengths n).2 ∧ (inMonths first lengths n).2 ≤ lengths.getD i 0 ∧
      (lengths.take i).sum + (inMonths first lengths n).2 = n + 1 := by
  fun_induction inMonths first lengths n with
  | case1 => exact absurd hn (Nat.not_lt_zero _)
  | case2 first length n =>
    rw [List.sum_singleton] at hn
    exact ⟨0, Nat.one_pos, rfl, Nat.succ_pos n, hn, Nat.zero_add _⟩
  | case3 first length rest n _ hlt =>
    exact ⟨0, Nat.succ_pos _, rfl, Nat.succ_pos n, hlt, Nat.zero_add _⟩
  | case4 first length rest n _ hge ih =>
    rw [List.sum_cons] at hn
    obtain ⟨i, hi, hmonth, hpos, hday, hsum⟩ := ih (by omega)
    refine ⟨i + 1, Nat.succ_lt_succ hi, by rw [hmonth]; omega, hpos, hday, ?_⟩
    rw [List.take_succ_cons, List.sum_cons]
    omega

/-- The date of a day of a year, counted from 0. -/
def ofDayOfYear (year k : Nat) : Date :=
  ⟨year, (inMonths 1 (monthLengths year) k).1, (inMonths 1 (monthLengths year) k).2⟩

theorem ofDayOfYear_spec (hyear : 1 ≤ year) (hk : k < daysInYear year) :
    (ofDayOfYear year k).Exists ∧ (ofDayOfYear year k).dayNumber = daysBeforeYear year + k + 1 := by
  obtain ⟨i, hi, hmonth, hpos, hday, hsum⟩ :=
    inMonths_spec 1 (hk.trans_le (Nat.le_of_eq sum_monthLengths.symm))
  have hi : i < 12 := hi
  have hplace : 1 + i - 1 = i := Nat.add_sub_cancel_left 1 i
  refine ⟨⟨hyear, ?_, ?_, hpos, ?_⟩, ?_⟩
  · show 1 ≤ (inMonths 1 (monthLengths year) k).1
    omega
  · show (inMonths 1 (monthLengths year) k).1 ≤ 12
    omega
  · show _ ≤ daysInMonth year (inMonths 1 (monthLengths year) k).1
    rw [daysInMonth, hmonth, hplace]
    exact hday
  · show daysBeforeYear year + daysBeforeMonth year (inMonths 1 (monthLengths year) k).1 +
      (inMonths 1 (monthLengths year) k).2 = _
    rw [daysBeforeMonth_eq_sum, hmonth, hplace]
    omega

section Cycles

variable {a b c e : Nat}

theorem daysBeforeYear_cycles (hb : b ≤ 3) (hc : c ≤ 24) (he : e ≤ 3) :
    daysBeforeYear (a * 400 + b * 100 + c * 4 + e + 1) =
      a * 146097 + b * 36524 + c * 1461 + e * 365 := by
  simp only [daysBeforeYear]
  omega

theorem isLeap_cycles (hb : b ≤ 3) (hc : c ≤ 24) (he : e ≤ 3) :
    isLeap (a * 400 + b * 100 + c * 4 + e + 1) = true ↔ e = 3 ∧ (c = 24 → b = 3) := by
  simp only [isLeap, Bool.and_eq_true, Bool.or_eq_true, beq_iff_eq, bne_iff_ne]
  omega

/-- The last day of a leap year is the 31st of December. -/
theorem ofDayOfYear_last (h : isLeap year = true) : ofDayOfYear year 365 = ⟨year, 12, 31⟩ := by
  have hlast : inMonths 1 (monthLengths year) 365 = (12, 31) := by
    rw [monthLengths, if_pos h]
    decide
  rw [ofDayOfYear, hlast]

/-- **A number in cycles** of 400, 100 and 4 years, single years and days; the last cycles
but the longest can be one too many, on the last day of a leap year. -/
theorem exists_cycles (n : Nat) :
    ∃ a b c e k, k < 365 ∧ e * 365 + k < 1461 ∧ c * 1461 + (e * 365 + k) < 36524 ∧
      b * 36524 + (c * 1461 + (e * 365 + k)) < 146097 ∧
      n = a * 146097 + (b * 36524 + (c * 1461 + (e * 365 + k))) ∧
      ofDayNumber (n + 1) = if e == 4 || b == 4 then ⟨a * 400 + b * 100 + c * 4 + e, 12, 31⟩
        else ofDayOfYear (a * 400 + b * 100 + c * 4 + e + 1) k := by
  refine ⟨n / 146097, n % 146097 / 36524, n % 146097 % 36524 / 1461,
    n % 146097 % 36524 % 1461 / 365, n % 146097 % 36524 % 1461 % 365, ?_⟩
  simp only [Nat.div_add_mod']
  exact ⟨Nat.mod_lt _ (by decide), Nat.mod_lt _ (by decide), Nat.mod_lt _ (by decide),
    Nat.mod_lt _ (by decide), trivial, rfl⟩

/-- **The date of a number** is a day of the year that the number lies in. -/
theorem exists_dayOfYear (h : 1 ≤ number) :
    ∃ year k, 1 ≤ year ∧ k < daysInYear year ∧ daysBeforeYear year + k + 1 = number ∧
      ofDayNumber number = ofDayOfYear year k := by
  obtain ⟨n, rfl⟩ := Nat.exists_eq_add_of_le' h
  obtain ⟨a, b, c, e, k, hk, he, hc, hb, hn, hof⟩ := exists_cycles n
  rw [hof, hn]
  clear hn
  split
  · rename_i hlast
    rw [Bool.or_eq_true, beq_iff_eq, beq_iff_eq] at hlast
    obtain ⟨b', c', hb', hc', hyear, hdays, hcycle⟩ : ∃ b' c', b' ≤ 3 ∧ c' ≤ 24 ∧
        a * 400 + b * 100 + c * 4 + e = a * 400 + b' * 100 + c' * 4 + 3 + 1 ∧
        b * 36524 + (c * 1461 + (e * 365 + k)) = b' * 36524 + (c' * 1461 + 1460) ∧
        (c' = 24 → b' = 3) := by
      rcases hlast with hlast | hlast
      · exact ⟨b, c, by omega, by omega, by omega, by omega, by omega⟩
      · exact ⟨3, 24, by decide, by decide, by omega, by omega, fun _ => rfl⟩
    have hleap := (isLeap_cycles (a := a) hb' hc' (Nat.le_refl 3)).mpr ⟨rfl, hcycle⟩
    rw [hyear]
    refine ⟨a * 400 + b' * 100 + c' * 4 + 3 + 1, 365, Nat.succ_pos _, ?_, ?_, ?_⟩
    · rw [daysInYear, if_pos hleap]
      decide
    · rw [daysBeforeYear_cycles hb' hc' (Nat.le_refl 3), hdays]
      ring
    · rw [ofDayOfYear_last hleap]
  · rename_i hlast
    rw [Bool.or_eq_true, beq_iff_eq, beq_iff_eq] at hlast
    refine ⟨a * 400 + b * 100 + c * 4 + e + 1, k, Nat.succ_pos _, ?_, ?_, rfl⟩
    · rw [daysInYear]
      split <;> omega
    · rw [daysBeforeYear_cycles (by omega) (by omega) (by omega)]
      omega

end Cycles

/-- **A number has a date**, and is the number of it. -/
theorem dayNumber_ofDayNumber (h : 1 ≤ number) : (ofDayNumber number).dayNumber = number := by
  obtain ⟨year, k, hyear, hk, hnumber, hof⟩ := exists_dayOfYear h
  rw [hof, (ofDayOfYear_spec hyear hk).2, hnumber]

theorem exists_ofDayNumber (h : 1 ≤ number) : (ofDayNumber number).Exists := by
  obtain ⟨year, k, hyear, hk, -, hof⟩ := exists_dayOfYear h
  rw [hof]
  exact (ofDayOfYear_spec hyear hk).1

/-- **A date is the date of its number.** -/
theorem Exists.ofDayNumber_dayNumber (h : d.Exists) : ofDayNumber d.dayNumber = d := by
  have hpos : 1 ≤ d.dayNumber := Nat.one_le_of_lt h.year_bounds.1
  exact (exists_ofDayNumber hpos).dayNumber_inj h (dayNumber_ofDayNumber hpos)

end Date

/-! ### Seconds of the calendar -/

variable {n : Int} {year year' : Nat}

/-- The date that a second of the calendar lies in. -/
def dateAt (n : Int) : Date := Date.ofDayNumber (n.toNat / 86400 + 1)

/-- The year that a second of the calendar lies in; before the calendar it is the first. -/
def yearAt (n : Int) : Nat := (dateAt n).year

/-- The first second of a year. -/
def firstSecond (year : Nat) : Int := Date.daysBeforeYear year * 86400

theorem exists_dateAt : (dateAt n).Exists := Date.exists_ofDayNumber (Nat.succ_pos _)

theorem dayNumber_dateAt : (dateAt n).dayNumber = n.toNat / 86400 + 1 :=
  Date.dayNumber_ofDayNumber (Nat.succ_pos _)

theorem firstSecond_mono (h : year ≤ year') : firstSecond year ≤ firstSecond year' := by
  have := Date.daysBeforeYear_mono h
  rw [firstSecond, firstSecond]
  omega

theorem yearAt_pos : 1 ≤ yearAt n := exists_dateAt.year_pos

theorem yearAt_of_nonpos (h : n ≤ 0) : yearAt n = 1 := by
  rw [yearAt, dateAt, Int.toNat_of_nonpos h]
  rfl

/-- A second does not come before its year. -/
theorem firstSecond_yearAt_le (h : 0 ≤ n) : firstSecond (yearAt n) ≤ n := by
  have hbefore := (exists_dateAt (n := n)).year_bounds.1
  rw [dayNumber_dateAt] at hbefore
  rw [firstSecond, yearAt]
  omega

/-- A second of a later year than another's does not come before its year. -/
theorem firstSecond_yearAt_le_of_lt {m : Int} (h : yearAt m < yearAt n) :
    firstSecond (yearAt n) ≤ n := by
  refine firstSecond_yearAt_le (Int.not_lt.mp fun hneg => ?_)
  have hfirst := yearAt_of_nonpos (Int.le_of_lt hneg)
  have hpos := yearAt_pos (n := m)
  omega

/-- A second comes before the year after its own. -/
theorem lt_firstSecond_succ_yearAt : n < firstSecond (yearAt n + 1) := by
  have hafter := (exists_dateAt (n := n)).year_bounds.2
  rw [dayNumber_dateAt] at hafter
  rw [firstSecond, yearAt]
  omega

namespace LocalTime

variable {t : LocalTime} {microsecond : Nat}

/-- **The local time of a second**, if the calendar has it. -/
theorem ofSeconds?_eq_some_iff : ofSeconds? n microsecond = some t ↔
    0 ≤ n ∧ (dateAt n).year ≤ lastYear ∧
      t = ⟨dateAt n, TimeOfDay.ofSeconds (n.toNat % 86400) microsecond⟩ := by
  simp only [ofSeconds?, dateAt, Option.ite_none_left_eq_some, Option.some.injEq, Int.not_lt,
    Nat.not_lt]
  exact and_congr_right' (and_congr_right' eq_comm)

/-- The second and the microseconds of a local time are those that it was made of. -/
theorem of_ofSeconds? (h : ofSeconds? n microsecond = some t) :
    t.seconds = n ∧ t.time.microsecond = microsecond := by
  obtain ⟨hpos, -, rfl⟩ := ofSeconds?_eq_some_iff.mp h
  refine ⟨?_, rfl⟩
  rw [seconds, TimeOfDay.seconds, TimeOfDay.ofSeconds, dayNumber_dateAt]
  simp only
  omega

/-- The local time of a second is one that there is. -/
theorem isValid_of_ofSeconds? (h : ofSeconds? n microsecond = some t)
    (hmicro : microsecond < 1000000) : t.isValid = true := by
  obtain ⟨-, hyear, rfl⟩ := ofSeconds?_eq_some_iff.mp h
  have hvalid : (dateAt n).isValid = true := Date.isValid_iff.mpr ⟨exists_dateAt, hyear⟩
  rw [isValid, hvalid, Bool.true_and, TimeOfDay.isValid, TimeOfDay.ofSeconds]
  simp only [Bool.and_eq_true, decide_eq_true_eq]
  omega

/-- **A local time that there is lies in the date and the year of its second.** -/
theorem dateAt_seconds (h : t.isValid = true) : dateAt t.seconds = t.date := by
  rw [isValid, Bool.and_eq_true] at h
  obtain ⟨hdate, htime⟩ := h
  have hdate := (Date.isValid_iff.mp hdate).1
  have hpos : 1 ≤ t.date.dayNumber := Nat.one_le_of_lt hdate.year_bounds.1
  have hday : t.seconds.toNat / 86400 + 1 = t.date.dayNumber := by
    rw [TimeOfDay.isValid] at htime
    simp only [Bool.and_eq_true, decide_eq_true_eq] at htime
    rw [seconds, TimeOfDay.seconds]
    omega
  rw [dateAt, hday, hdate.ofDayNumber_dayNumber]

end LocalTime

end RelationalSearch
