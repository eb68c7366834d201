import RelationalSearch.Proofs.YearlyChanges

/-!
# The course of the clock in a zone

A zone answers two questions, for the offset at a moment and for the offset at a reading,
by two searches through the same changes, and by its rule after the last of them. The two
answers belong together if the changes are in order (`RelationalSearch.Zone.InOrder`):
each comes later than the one before, on the clock as well as in universal time, and the
rule takes over where the changes end.

Then the first change of a zone can be split off
(`RelationalSearch.Zone.InOrder.course_change`), and the course of the clock is sound
(`RelationalSearch.Zone.InOrder.sound`): readings that are shown twice or not at all are
resolved by the convention, at all times.
-/

namespace RelationalSearch

namespace Zone

variable {z : Zone} {before current point x r : Int} {last last' : Option Int}
  {change next : Int × Int} {changes rest : List (Int × Int)} {rule : Option YearRule}
  {second : Bool}

/-- **The course of the clock in a zone.** -/
def course (z : Zone) : Course where
  offset x := (z.offsetAtMoment (yearAt x) x).1
  resolved second r := z.offsetAtReading (yearAt r) second r

/-! ### One search for both questions -/

/-- The offset of the last change that stands at or before a point, with the place of the
last change of all. -/
def scan (place : Int → Int × Int → Int) (point before current : Int) (last : Option Int) :
    List (Int × Int) → Int × Option Int
  | [] => (current, last)
  | change :: rest =>
    scan place point change.2 (if place before change ≤ point then change.2 else current)
      (some (place before change)) rest

theorem scanReadings_eq : scanReadings second r before current last changes =
    scan (changeReading second) r before current last changes := by
  induction changes generalizing before current last with
  | nil => rfl
  | cons change rest ih => rw [scanReadings, scan, ih]

/-- The place of a change in universal time. -/
def moment (_before : Int) (change : Int × Int) : Int := change.1

theorem scanMoments_eq (shown : Bool) :
    ((scanMoments x before (current, shown) last changes).1.1,
      (scanMoments x before (current, shown) last changes).2) =
      scan moment x before current last changes := by
  induction changes generalizing before current shown last with
  | nil => rfl
  | cons change rest ih =>
    rw [scanMoments, scan, moment]
    split <;> exact ih _

/-- The offset at a point: that which was found among the changes, or after the last of them
that of the rule. -/
def settled (byRule : Option Int) (point : Int) (found : Int × Option Int) : Int :=
  match byRule, found.2 with
  | some offset, none => offset
  | some offset, some last => if last < point then offset else found.1
  | none, _ => found.1

/-- **The offset of a zone at a point**, in universal time or on the clock. -/
def lookUp (place : Int → Int × Int → Int) (byRule : YearRule → Int) (point : Int) (z : Zone) :
    Int :=
  settled (z.rule.map byRule) point (scan place point z.initial z.initial none z.changes)

theorem course_offset : z.course.offset x = z.lookUp moment (fun r => r.course.offset x) x := by
  rw [lookUp, ← scanMoments_eq false]
  simp only [course, offsetAtMoment, settled, YearRule.course]
  generalize scanMoments x z.initial (z.initial, false) none z.changes = found
  rcases z.rule with _ | rule
  · rfl
  · rcases found with ⟨found, _ | last⟩
    · rfl
    · show (if last < x then _ else _ : Int × Bool).1 = if last < x then _ else _
      split <;> rfl

theorem course_resolved : z.course.resolved second r =
    z.lookUp (changeReading second) (fun rule => rule.course.resolved second r) r := by
  rw [lookUp, ← scanReadings_eq]
  simp only [course, offsetAtReading, settled, YearRule.course]
  generalize scanReadings second r z.initial z.initial none z.changes = found
  rcases z.rule with _ | rule
  · rfl
  · rcases found with ⟨found, _ | last⟩ <;> rfl

/-! ### Changes in order -/

/-- Changes whose places do not go back. -/
def Ascending (place : Int → Int × Int → Int) : Int → List (Int × Int) → Prop
  | before, change :: next :: rest =>
    place before change ≤ place change.2 next ∧ Ascending place change.2 (next :: rest)
  | _, _ => True

/-- Before the first change a search finds nothing, and ends at a place beyond. -/
theorem scan_of_lt {place : Int → Int × Int → Int} (current : Int) (last : Option Int)
    (h : Ascending place before (change :: rest)) (hx : x < place before change) :
    (scan place x before current last (change :: rest)).1 = current ∧
      ∃ end_, (scan place x before current last (change :: rest)).2 = some end_ ∧ x < end_ := by
  induction rest generalizing before change last with
  | nil =>
    rw [scan, scan, if_neg (Int.not_le.mpr hx)]
    exact ⟨rfl, _, rfl, hx⟩
  | cons next rest ih =>
    rw [scan, if_neg (Int.not_le.mpr hx)]
    exact ih _ h.2 (Int.lt_of_lt_of_le hx h.1)

/-- **The first change can be looked at apart**, if the rule that comes right after it, if
one does, agrees with it at its place. -/
theorem lookUp_change {place : Int → Int × Int → Int} {byRule : YearRule → Int}
    (h : Ascending place before (change :: rest))
    (hrule : ∀ r, rest = [] → rule = some r → x = place before change → byRule r = change.2) :
    lookUp place byRule x ⟨before, change :: rest, rule⟩ =
      if x < place before change then before
      else lookUp place byRule x ⟨change.2, rest, rule⟩ := by
  split
  · rename_i hx
    obtain ⟨hfound, end_, hend, hbeyond⟩ := scan_of_lt before none h hx
    rw [lookUp]
    cases rule with
    | none => exact hfound
    | some r =>
      simp only [settled, Option.map_some, hend, if_neg (Int.lt_asymm hbeyond)]
      exact hfound
  · rename_i hx
    rw [lookUp, lookUp, scan, if_pos (Int.not_lt.mp hx)]
    cases rest with
    | cons next rest => rfl
    | nil =>
      cases rule with
      | none => rfl
      | some r =>
        show (if place before change < x then byRule r else change.2) = byRule r
        split
        · rfl
        · exact (hrule r rfl rfl (by omega)).symm

/-- **What comes after a change keeps to it**: the next change comes later, and begins no
earlier readings, or else the rule takes over. -/
def Continues (before : Int) (change : Int × Int) (z : Zone) : Prop :=
  match z.changes, z.rule with
  | next :: _, _ => change.1 < next.1 ∧
      ∀ second, changeReading second before change ≤ changeReading second change.2 next
  | [], some r => r.TakesOver before change
  | [], none => True

/-- **A zone is in order** if what comes after each of its changes keeps to the change, and
its rule is in order. -/
inductive InOrder : Zone → Prop
  | constant (offset : Int) : InOrder ⟨offset, [], none⟩
  | yearly (offset : Int) {r : YearRule} (h : r.InOrder) : InOrder ⟨offset, [], some r⟩
  | change {before : Int} {change : Int × Int} {rest : List (Int × Int)} {rule : Option YearRule}
      (hcontinues : Continues before change ⟨change.2, rest, rule⟩)
      (h : InOrder ⟨change.2, rest, rule⟩) : InOrder ⟨before, change :: rest, rule⟩

namespace InOrder

theorem ascending_moment (h : z.InOrder) : Ascending moment z.initial z.changes := by
  induction h with
  | constant => trivial
  | yearly => trivial
  | @change before change rest rule hcontinues h ih =>
    cases rest with
    | nil => trivial
    | cons next rest => exact ⟨Int.le_of_lt hcontinues.1, ih⟩

theorem ascending_reading (h : z.InOrder) (second : Bool) :
    Ascending (changeReading second) z.initial z.changes := by
  induction h with
  | constant => trivial
  | yearly => trivial
  | @change before change rest rule hcontinues h ih =>
    cases rest with
    | nil => trivial
    | cons next rest => exact ⟨hcontinues.2 second, ih⟩

/-- **The first change of a zone stands before the course of what comes after it.** -/
theorem course_change (h : InOrder ⟨before, change :: rest, rule⟩) :
    course ⟨before, change :: rest, rule⟩ =
      .after before change (course ⟨change.2, rest, rule⟩) := by
  have hover : ∀ r, rest = [] → rule = some r → r.InOrder ∧ r.TakesOver before change := by
    rintro r rfl rfl
    cases h with
    | change hcontinues h =>
      cases h with
      | yearly _ h => exact ⟨h, hcontinues⟩
  have hoffset : ∀ x, (course ⟨before, change :: rest, rule⟩).offset x =
      if x < change.1 then before else (course ⟨change.2, rest, rule⟩).offset x := fun x => by
    rw [course_offset, course_offset]
    refine lookUp_change h.ascending_moment fun r hrest hrule hx => ?_
    obtain ⟨hr, hover⟩ := hover r hrest hrule
    rw [hx]
    exact hover.offset_eq
  have hresolved : ∀ second x, (course ⟨before, change :: rest, rule⟩).resolved second x =
      if x < changeReading second before change then before
      else (course ⟨change.2, rest, rule⟩).resolved second x := fun second x => by
    rw [course_resolved, course_resolved]
    refine lookUp_change (h.ascending_reading second) fun r hrest hrule hx => ?_
    obtain ⟨hr, hover⟩ := hover r hrest hrule
    obtain ⟨_, _, _, _, halternates⟩ := hr.exists_alternates
    rw [hx]
    exact halternates.resolved_eq_change hover second
  exact congrArg₂ Course.mk (funext hoffset) (funext fun second => funext (hresolved second))

/-- A zone follows a change that it keeps to. -/
theorem follows (h : z.InOrder) (hinitial : z.initial = change.2)
    (hcontinues : Continues before change z) : z.course.Follows before change := by
  induction h generalizing before change with
  | constant offset =>
    cases hinitial
    exact Course.follows_constant _ _
  | yearly offset h =>
    obtain ⟨_, _, _, _, halternates⟩ := h.exists_alternates
    exact halternates.follows hcontinues
  | @change initial next rest rule hnext h ih =>
    cases hinitial
    rw [(InOrder.change hnext h).course_change]
    exact (ih rfl hnext).after hcontinues.1 (hcontinues.2 true)

/-- **In a zone in order, the course of the clock is sound.** -/
theorem sound (h : z.InOrder) : z.course.Sound := by
  induction h with
  | constant offset => exact Course.sound_constant offset
  | yearly offset h =>
    obtain ⟨_, _, _, _, halternates⟩ := h.exists_alternates
    exact halternates.sound
  | @change before change rest rule hcontinues h ih =>
    rw [(InOrder.change hcontinues h).course_change]
    exact ih.after (h.follows rfl hcontinues)

end InOrder

end Zone

end RelationalSearch
