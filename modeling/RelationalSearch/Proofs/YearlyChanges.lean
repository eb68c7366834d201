import RelationalSearch.Proofs.CalendarDays
import RelationalSearch.Proofs.ClockCourse

/-!
# Changes that come every year

A rule for every year looks at one year at a time: the year of a moment, or of a reading.
So it answers for a clock with two changes in each year as if there were no other years,
and around the turn of a year the answers for two years have to meet. They do when both
changes keep two days away from each other and from the turn of the year, and come in the
same order in every year (`RelationalSearch.YearRule.InOrder`): then the course of the rule
is, around each moment, that of a clock with the two changes of its year
(`RelationalSearch.YearRule.Alternates.near`), and hence it is sound
(`RelationalSearch.YearRule.InOrder.sound`).
-/

namespace RelationalSearch

open Course

/-- **The course of a clock that is changed twice**, and then shows its first offset
again. -/
def Course.twice (outer inner first last : Int) : Course :=
  .after outer (first, inner) (.after inner (last, outer) (.constant outer))

namespace Course

variable {outer inner first last x : Int}

theorem twice_offset : (twice outer inner first last).offset x =
    if x < first then outer else if x < last then inner else outer := rfl

theorem twice_resolved {second : Bool} : (twice outer inner first last).resolved second x =
    if x < Zone.changeReading second outer (first, inner) then outer
    else if x < Zone.changeReading second inner (last, outer) then inner else outer := rfl

theorem twice_clock : (twice outer inner first last).clock x =
    x + if x < first then outer else if x < last then inner else outer := rfl

theorem small_twice (houter : -86400 < outer ∧ outer < 86400)
    (hinner : -86400 < inner ∧ inner < 86400) : (twice outer inner first last).Small := by
  intro x
  rw [twice_offset]
  split_ifs
  · exact houter
  · exact hinner
  · exact houter

/-- Two changes one after the other make a sound course. -/
theorem sound_twice (hmoment : first < last) : (twice outer inner first last).Sound := by
  have hlast : (after inner (last, outer) (constant outer)).Sound :=
    (sound_constant outer).after (follows_constant inner (last, outer))
  have hfollows : (constant outer).Follows inner (last, outer) :=
    follows_constant inner (last, outer)
  have hnext : (after inner (last, outer) (constant outer)).Follows outer (first, inner) := by
    refine hfollows.after (show (first, inner).1 < (last, outer).1 from hmoment) ?_
    rw [Zone.changeReading_true, Zone.changeReading_true]
    show first + min outer inner ≤ last + min inner outer
    omega
  exact hlast.after hnext

/-- Two changes keep clear of a change. -/
structure KeepsClear (outer inner first last before : Int) (change : Int × Int) : Prop where
  offset_eq : (twice outer inner first last).offset change.1 = change.2
  first_le : first ≤ change.1 → first + outer ≤ change.1 + before
  lt_first : change.1 < first → ∀ second,
    Zone.changeReading second before change < Zone.changeReading second outer (first, inner)
  last_le : last ≤ change.1 → last + inner ≤ change.1 + before
  lt_last : change.1 < last → ∀ second,
    Zone.changeReading second before change < Zone.changeReading second inner (last, outer)

/-- Two changes follow a change that they keep clear of. -/
theorem KeepsClear.follows {before : Int} {change : Int × Int} (hapart : first + 172800 ≤ last)
    (houter : -86400 < outer ∧ outer < 86400) (hinner : -86400 < inner ∧ inner < 86400)
    (h : KeepsClear outer inner first last before change) :
    (twice outer inner first last).Follows before change := by
  obtain ⟨hoffset, hfirst, hfirst', hlast, hlast'⟩ := h
  have hfirst' := fun hlt => hfirst' hlt true
  have hlast' := fun hlt => hlast' hlt true
  simp only [Zone.changeReading_true] at hfirst' hlast'
  rw [twice_offset] at hoffset
  refine ⟨hoffset, fun x hx => ?_, fun x hx => ?_, fun hforward => ?_⟩
  · rw [twice_clock]
    split_ifs at * <;> omega
  · rw [twice_clock]
    split_ifs at * <;> omega
  · -- The offset is that of the change since the last of the two, or has always been.
    rcases Int.lt_or_le change.1 first with hlt | hle
    · refine ⟨change.1 + before - change.2, by omega, fun x _ hx => ?_, fun x hx => ?_⟩
      · rw [if_pos hlt] at hoffset
        rw [twice_offset, if_pos (by omega), hoffset]
      · rw [if_pos hlt] at hoffset
        rw [twice_clock, if_pos (by omega)]
        omega
    · rcases Int.lt_or_le change.1 last with hlt | hle'
      · refine ⟨first, hle, fun x hfrom hx => ?_, fun x hx => ?_⟩
        · rw [twice_offset, ← hoffset]
          split_ifs <;> omega
        · rw [twice_clock, if_pos hx]
          omega
      · refine ⟨last, hle', fun x hfrom hx => ?_, fun x hx => ?_⟩
        · rw [twice_offset, ← hoffset]
          split_ifs <;> omega
        · rw [twice_clock]
          split_ifs <;> omega

/-- The readings of a change that two changes keep clear of have its offset. -/
theorem KeepsClear.resolved_eq {before : Int} {change : Int × Int} (hapart : first + 172800 ≤ last)
    (houter : -86400 < outer ∧ outer < 86400) (hinner : -86400 < inner ∧ inner < 86400)
    (h : KeepsClear outer inner first last before change) (second : Bool) :
    (twice outer inner first last).resolved second (Zone.changeReading second before change) =
      change.2 := by
  obtain ⟨hoffset, hfirst, hfirst', hlast, hlast'⟩ := h
  have hfirst' := fun hlt => hfirst' hlt second
  have hlast' := fun hlt => hlast' hlt second
  rw [twice_offset] at hoffset
  rw [twice_resolved]
  cases second <;> simp only [Zone.changeReading_false, Zone.changeReading_true] at * <;>
    split_ifs at * <;> omega

end Course

namespace YearRule

variable {r : YearRule} {year : Nat} {outer inner before : Int} {first last : Nat → Int}
  {change : Int × Int}

/-- The moment of a year at which the summer offset begins. -/
def summerBegins (r : YearRule) (year : Nat) : Int := r.toSummer.moment year - r.standard

/-- The moment of a year at which the summer offset ends. -/
def summerEnds (r : YearRule) (year : Nat) : Int := r.toStandard.moment year - r.summer

/-- Both changes of a year, each with the offset that it ends. -/
def turns (r : YearRule) (year : Nat) : List (Int × (Int × Int)) :=
  [(r.standard, (r.summerBegins year, r.summer)), (r.summer, (r.summerEnds year, r.standard))]

/-- In every year the one moment comes two days or more after the year's beginning, the
other two days or more after it and two days or more before the year's end. -/
def Apart (first last : Nat → Int) : Prop :=
  ∀ year, 1 ≤ year → firstSecond year + 172800 ≤ first year ∧
    first year + 172800 ≤ last year ∧ last year + 172800 ≤ firstSecond (year + 1)

/-- **A rule is in order** if its offsets are less than a day and its changes come in the
same order in every year, away from each other and from the turn of the year. -/
structure InOrder (r : YearRule) : Prop where
  standard_small : -86400 < r.standard ∧ r.standard < 86400
  summer_small : -86400 < r.summer ∧ r.summer < 86400
  apart : Apart r.summerBegins r.summerEnds ∨ Apart r.summerEnds r.summerBegins

/-- **A rule takes over from a change** if it has the same offset at the change and the
changes of that year keep clear of it: the earlier ones begin at no later reading of the
clock that they end, and the later ones at later readings of either kind. -/
structure TakesOver (r : YearRule) (before : Int) (change : Int × Int) : Prop where
  before_small : -86400 < before ∧ before < 86400
  offset_eq : (r.offsetAtMoment (yearAt change.1) change.1).1 = change.2
  earlier : ∀ turn ∈ r.turns (yearAt change.1), turn.2.1 ≤ change.1 →
    turn.2.1 + turn.1 ≤ change.1 + before
  later : ∀ turn ∈ r.turns (yearAt change.1), change.1 < turn.2.1 → ∀ second,
    Zone.changeReading second before change < Zone.changeReading second turn.1 turn.2

/-- The course of a clock with yearly changes. -/
def course (r : YearRule) : Course where
  offset x := (r.offsetAtMoment (yearAt x) x).1
  resolved second n := r.offsetAtReading (yearAt n) second n

/-! ### One year -/

/-- **A rule as two offsets and the changes between them**, in the order in which they come
in each year. -/
structure Alternates (r : YearRule) (outer inner : Int) (first last : Nat → Int) : Prop where
  outer_small : -86400 < outer ∧ outer < 86400
  inner_small : -86400 < inner ∧ inner < 86400
  apart : Apart first last
  first_mem : ∀ year, (outer, (first year, inner)) ∈ r.turns year
  last_mem : ∀ year, (inner, (last year, outer)) ∈ r.turns year
  offset_eq : ∀ year x, 1 ≤ year →
    (r.offsetAtMoment year x).1 = (twice outer inner (first year) (last year)).offset x
  resolved_eq : ∀ year second n, 1 ≤ year →
    r.offsetAtReading year second n = (twice outer inner (first year) (last year)).resolved second n

theorem offsetAtMoment_eq {x : Int} : (r.offsetAtMoment year x).1 =
    if inSummer (r.summerBegins year) (r.summerEnds year) x then r.summer else r.standard := rfl

/-- A rule resolves readings as two changes do that are listed. -/
theorem offsetAtReading_eq {second : Bool} {n : Int} : r.offsetAtReading year second n =
    if inSummer (Zone.changeReading second r.standard (r.summerBegins year, r.summer))
      (Zone.changeReading second r.summer (r.summerEnds year, r.standard)) n
    then r.summer else r.standard := by
  have hbegins : r.toSummer.moment year = r.summerBegins year + r.standard :=
    (Int.sub_add_cancel _ _).symm
  have hends : r.toStandard.moment year = r.summerEnds year + r.summer :=
    (Int.sub_add_cancel _ _).symm
  -- The two readings of a change are those on the clocks of the two offsets.
  have hearlier : r.summerEnds year + r.summer - (r.summer - r.standard) =
      r.summerEnds year + r.standard := by omega
  have hlater : r.summerBegins year + r.standard + (r.summer - r.standard) =
      r.summerBegins year + r.summer := by omega
  simp only [offsetAtReading, hbegins, hends, hearlier, hlater]
  rcases Int.lt_or_le r.summer r.standard with hlt | hle
  · have hforward : decide (0 ≤ r.summer - r.standard) = false := decide_eq_false (by omega)
    cases second <;> simp only [hforward, Zone.changeReading_false, Zone.changeReading_true,
      Int.max_eq_left (Int.le_of_lt hlt), Int.max_eq_right (Int.le_of_lt hlt),
      Int.min_eq_left (Int.le_of_lt hlt), Int.min_eq_right (Int.le_of_lt hlt)] <;> rfl
  · have hforward : decide (0 ≤ r.summer - r.standard) = true := decide_eq_true (by omega)
    cases second <;> simp only [hforward, Zone.changeReading_false, Zone.changeReading_true,
      Int.max_eq_left hle, Int.max_eq_right hle, Int.min_eq_left hle, Int.min_eq_right hle] <;> rfl

theorem inSummer_of_lt {begins ends x summer standard : Int} (h : begins < ends) :
    (if inSummer begins ends x then summer else standard) =
      if x < begins then standard else if x < ends then summer else standard := by
  rw [inSummer, if_pos h]
  simp only [Bool.and_eq_true, decide_eq_true_eq]
  split_ifs <;> first | rfl | omega

theorem inSummer_of_gt {begins ends x summer standard : Int} (h : ends < begins) :
    (if inSummer begins ends x then summer else standard) =
      if x < ends then summer else if x < begins then standard else summer := by
  rw [inSummer, if_neg (Int.not_lt.mpr (Int.le_of_lt h))]
  simp only [Bool.not_eq_true', Bool.and_eq_false_iff, decide_eq_false_iff_not]
  split_ifs <;> first | rfl | omega

/-- A summer within the year. -/
theorem alternates_of_begins (h : r.InOrder) (hapart : Apart r.summerBegins r.summerEnds) :
    r.Alternates r.standard r.summer r.summerBegins r.summerEnds := by
  have hstandard := h.standard_small
  have hsummer := h.summer_small
  refine ⟨hstandard, hsummer, hapart, fun _ => List.mem_cons_self,
    fun _ => List.mem_cons_of_mem _ List.mem_cons_self, fun year x hyear => ?_,
    fun year second n hyear => ?_⟩
  all_goals obtain ⟨-, hbetween, -⟩ := hapart year hyear
  · rw [offsetAtMoment_eq, inSummer_of_lt (by omega), twice_offset]
  · rw [offsetAtReading_eq, inSummer_of_lt, twice_resolved]
    cases second <;> simp only [Zone.changeReading_false, Zone.changeReading_true] <;> omega

/-- A summer over the turn of the year. -/
theorem alternates_of_ends (h : r.InOrder) (hapart : Apart r.summerEnds r.summerBegins) :
    r.Alternates r.summer r.standard r.summerEnds r.summerBegins := by
  have hstandard := h.standard_small
  have hsummer := h.summer_small
  refine ⟨hsummer, hstandard, hapart, fun _ => List.mem_cons_of_mem _ List.mem_cons_self,
    fun _ => List.mem_cons_self, fun year x hyear => ?_, fun year second n hyear => ?_⟩
  all_goals obtain ⟨-, hbetween, -⟩ := hapart year hyear
  · rw [offsetAtMoment_eq, inSummer_of_gt (by omega), twice_offset]
  · rw [offsetAtReading_eq, inSummer_of_gt, twice_resolved]
    cases second <;> simp only [Zone.changeReading_false, Zone.changeReading_true] <;> omega

theorem InOrder.exists_alternates (h : r.InOrder) :
    ∃ outer inner first last, r.Alternates outer inner first last := by
  rcases h.apart with hapart | hapart
  · exact ⟨_, _, _, _, alternates_of_begins h hapart⟩
  · exact ⟨_, _, _, _, alternates_of_ends h hapart⟩

namespace Alternates

/-- The year of a moment is all that matters around it. -/
theorem near (h : r.Alternates outer inner first last) (n : Int) :
    (twice outer inner (first (yearAt n)) (last (yearAt n))).Near r.course n := by
  intro x hfrom hto
  show _ = (r.offsetAtMoment (yearAt x) x).1
  rw [h.offset_eq _ _ yearAt_pos, twice_offset, twice_offset]
  have hx := h.apart (yearAt x) yearAt_pos
  have hn := h.apart (yearAt n) yearAt_pos
  have hafter := lt_firstSecond_succ_yearAt (n := x)
  have hafter' := lt_firstSecond_succ_yearAt (n := n)
  rcases Nat.lt_trichotomy (yearAt x) (yearAt n) with hlt | heq | hgt
  · -- Around the turn of a year, the outer offset holds on either side.
    have hturn := firstSecond_mono (show yearAt x + 1 ≤ yearAt n from hlt)
    have hn' := firstSecond_yearAt_le_of_lt hlt
    rw [if_pos (show x < first (yearAt n) by omega), if_neg (show ¬ x < first (yearAt x) by omega),
      if_neg (show ¬ x < last (yearAt x) by omega)]
  · rw [heq]
  · have hturn := firstSecond_mono (show yearAt n + 1 ≤ yearAt x from hgt)
    have hx' := firstSecond_yearAt_le_of_lt hgt
    rw [if_pos (show x < first (yearAt x) by omega), if_neg (show ¬ x < first (yearAt n) by omega),
      if_neg (show ¬ x < last (yearAt n) by omega)]

theorem small (h : r.Alternates outer inner first last) : r.course.Small := by
  intro x
  show -86400 < (r.offsetAtMoment (yearAt x) x).1 ∧ (r.offsetAtMoment (yearAt x) x).1 < 86400
  rw [h.offset_eq _ _ yearAt_pos]
  exact small_twice h.outer_small h.inner_small x

/-- **Yearly changes make a sound course.** -/
theorem sound (h : r.Alternates outer inner first last) : r.course.Sound := by
  have htwice : ∀ year, 1 ≤ year → (twice outer inner (first year) (last year)).Sound :=
    fun year hyear => sound_twice (by
      have := h.apart year hyear
      omega)
  have hsmall : ∀ year, (twice outer inner (first year) (last year)).Small :=
    fun _ => small_twice h.outer_small h.inner_small
  constructor
  · intro n
    show r.course.FirstAt n (r.offsetAtReading (yearAt n) false n)
    rw [h.resolved_eq _ _ _ yearAt_pos]
    exact ((htwice _ yearAt_pos).first n).near (hsmall _) h.small (h.near n) (by omega)
  · intro n
    show r.course.LastAt n (r.offsetAtReading (yearAt n) true n)
    rw [h.resolved_eq _ _ _ yearAt_pos]
    exact ((htwice _ yearAt_pos).last n).near (hsmall _) h.small (h.near n) (by omega)

/-! ### A rule after a change -/

/-- Where a rule takes over, the two changes of the year keep clear of the change. -/
theorem keepsClear (h : r.Alternates outer inner first last) (hover : r.TakesOver before change) :
    KeepsClear outer inner (first (yearAt change.1)) (last (yearAt change.1)) before change where
  offset_eq := by rw [← h.offset_eq _ _ yearAt_pos, hover.offset_eq]
  first_le := hover.earlier _ (h.first_mem _)
  lt_first := hover.later _ (h.first_mem _)
  last_le := hover.earlier _ (h.last_mem _)
  lt_last := hover.later _ (h.last_mem _)

theorem follows (h : r.Alternates outer inner first last) (hover : r.TakesOver before change) :
    r.course.Follows before change :=
  ((h.keepsClear hover).follows (h.apart _ yearAt_pos).2.1 h.outer_small h.inner_small).near h.small
    hover.before_small (h.near change.1)

theorem resolved_eq_change (h : r.Alternates outer inner first last)
    (hover : r.TakesOver before change) (second : Bool) :
    r.course.resolved second (Zone.changeReading second before change) = change.2 := by
  have hapart := (h.apart _ (yearAt_pos (n := change.1))).2.1
  have hclear := (h.keepsClear hover).resolved_eq hapart h.outer_small h.inner_small second
  have hsound : (twice outer inner (first (yearAt change.1)) (last (yearAt change.1))).Sound :=
    sound_twice (by omega)
  have hbefore := hover.before_small
  have hafter := h.small change.1
  rw [(h.follows hover).offset_eq] at hafter
  cases second with
  | false =>
    have hfirst := hsound.first (Zone.changeReading false before change)
    rw [hclear] at hfirst
    refine (h.sound.first _).unique (hfirst.near (small_twice h.outer_small h.inner_small) h.small
      (h.near change.1) ?_)
    rw [Zone.changeReading_false]
    omega
  | true =>
    have hlast := hsound.last (Zone.changeReading true before change)
    rw [hclear] at hlast
    refine (h.sound.last _).unique (hlast.near (small_twice h.outer_small h.inner_small) h.small
      (h.near change.1) ?_)
    rw [Zone.changeReading_true]
    omega

end Alternates

end YearRule

/-! ### Rules in order -/

/-- A yearly change from February to November, on a day of one of the weeks, at a time that
is no more than a week off. -/
structure YearlyChange.Plain (c : YearlyChange) : Prop where
  month_ge : 2 ≤ c.month
  month_le : c.month ≤ 11
  week_ge : 1 ≤ c.week
  week_le : c.week ≤ 5
  seconds_ge : -604800 ≤ c.seconds
  seconds_le : c.seconds ≤ 604800

/-- A yearly change comes on a day of its month. -/
theorem YearlyChange.Plain.moment_bounds {c : YearlyChange} (h : c.Plain) (year : Nat) :
    firstSecond year + Date.daysBeforeMonth year c.month * 86400 + c.seconds ≤ c.moment year ∧
      c.moment year <
        firstSecond year + Date.daysBeforeMonth year (c.month + 1) * 86400 + c.seconds := by
  have hweek := h.week_ge
  have hweek' := h.week_le
  have hmonth := h.month_ge
  have hmonth' := h.month_le
  have hlength : 28 ≤ Date.daysInMonth year c.month := Date.le_daysInMonth (by omega) (by omega)
  rw [Date.daysBeforeMonth_succ (by omega) (by omega)]
  simp only [firstSecond, moment]
  split <;> omega

/-- Two plain changes with a month between them are apart. -/
theorem YearRule.apart_of_plain {c c' : YearlyChange} {o o' : Int} (h : c.Plain) (h' : c'.Plain)
    (hbetween : c.month + 1 < c'.month) (ho : -86400 < o ∧ o < 86400)
    (ho' : -86400 < o' ∧ o' < 86400) :
    Apart (fun year => c.moment year - o) (fun year => c'.moment year - o') := by
  intro year hyear
  obtain ⟨hfrom, hto⟩ := h.moment_bounds year
  obtain ⟨hfrom', hto'⟩ := h'.moment_bounds year
  obtain ⟨hmonth, -, -, -, hseconds, hseconds_le⟩ := h
  obtain ⟨-, hmonth', -, -, hseconds', hseconds_le'⟩ := h'
  -- Before, between and after the two months there is a month of four weeks or more.
  have hbefore := Date.daysBeforeMonth_lt year (Nat.le_refl 1)
    (show 1 < c.month from hmonth) (by omega)
  have hmiddle := Date.daysBeforeMonth_lt year (show 1 ≤ c.month + 1 by omega) hbetween
    (by omega)
  have hafter := Date.daysBeforeMonth_lt year (show 1 ≤ c'.month + 1 by omega)
    (show c'.month + 1 < 13 by omega) (Nat.le_refl 13)
  have hnext : firstSecond (year + 1) =
      firstSecond year + Date.daysBeforeMonth year 13 * 86400 := by
    rw [firstSecond, firstSecond, Date.daysBeforeYear_succ hyear, Date.daysBeforeMonth_last]
    omega
  show firstSecond year + 172800 ≤ c.moment year - o ∧
    c.moment year - o + 172800 ≤ c'.moment year - o' ∧
    c'.moment year - o' + 172800 ≤ firstSecond (year + 1)
  rw [hnext]
  omega

/-- **A rule with plain changes is in order** if its offsets are less than a day and there
is a month between the changes. -/
theorem YearRule.inOrder_of_plain {r : YearRule}
    (hstandard : -86400 < r.standard ∧ r.standard < 86400)
    (hsummer : -86400 < r.summer ∧ r.summer < 86400) (hbegins : r.toSummer.Plain)
    (hends : r.toStandard.Plain)
    (hbetween : r.toSummer.month + 1 < r.toStandard.month ∨
      r.toStandard.month + 1 < r.toSummer.month) : r.InOrder where
  standard_small := hstandard
  summer_small := hsummer
  apart := hbetween.imp (fun h => apart_of_plain hbegins hends h hstandard hsummer)
    fun h => apart_of_plain hends hbegins h hsummer hstandard

end RelationalSearch
