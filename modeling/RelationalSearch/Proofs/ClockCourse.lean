import RelationalSearch.Calendar.Zone

/-!
# The course of a clock

A clock that is put forward and back shows some readings twice and others never. Which
moment a reading stands for is then a matter of convention: without the mark for a second
occurrence it is the first moment at which the clock has come as far as the reading, with
the mark it is the last moment at which it has not gone beyond. Where the clock skips the
reading, the offset is the one before the change without the mark, and the one after it
with the mark.

A course is what a clock shows and how its readings are resolved, and it is sound
(`RelationalSearch.Course.Sound`) when it follows this convention at all readings. A sound
course stays sound with a change put before it that it follows
(`RelationalSearch.Course.Sound.after`), and whether it resolves a reading in the right way
depends only on the moments within a day or so
(`RelationalSearch.Course.FirstAt.near`, `RelationalSearch.Course.LastAt.near`).
-/

namespace RelationalSearch

theorem Zone.changeReading_false {before : Int} {change : Int × Int} :
    changeReading false before change = change.1 + max before change.2 := rfl

theorem Zone.changeReading_true {before : Int} {change : Int × Int} :
    changeReading true before change = change.1 + min before change.2 := rfl

/-- **The course of a clock.** -/
structure Course where
  /-- The offset at a moment of universal time. -/
  offset : Int → Int
  /-- The offset at a reading, which the mark says is shown for the second time. -/
  resolved : (second : Bool) → Int → Int

namespace Course

variable {c c' rest : Course} {r o o' t before : Int} {change : Int × Int}

/-- What the clock shows at a moment. -/
def clock (c : Course) (x : Int) : Int := x + c.offset x

/-- **The offset of the first occurrence of a reading.** There is a first moment at which
the clock has come as far as the reading; it shows the reading and has the offset, or it
has jumped over the reading and the offset was in force just before. -/
def FirstAt (c : Course) (r o : Int) : Prop :=
  ∃ t, (∀ x < t, c.clock x < r) ∧
    (c.clock t = r ∧ c.offset t = o ∨ r < c.clock t ∧ c.offset (t - 1) = o)

/-- **The offset of the last occurrence of a reading.** There is a last moment at which the
clock has not gone beyond the reading; it shows the reading and has the offset, or the
clock jumps over the reading and the offset is in force right after. -/
def LastAt (c : Course) (r o : Int) : Prop :=
  ∃ t, (∀ x, t < x → r < c.clock x) ∧
    (c.clock t = r ∧ c.offset t = o ∨ c.clock t < r ∧ c.offset (t + 1) = o)

/-- **Whether readings are resolved by the convention.** -/
structure Sound (c : Course) : Prop where
  first : ∀ r, c.FirstAt r (c.resolved false r)
  last : ∀ r, c.LastAt r (c.resolved true r)

/-- The first occurrence of a reading has one offset. -/
theorem FirstAt.unique (h : c.FirstAt r o) (h' : c.FirstAt r o') : o = o' := by
  obtain ⟨t, hbefore, hat⟩ := h
  obtain ⟨t', hbefore', hat'⟩ := h'
  have hreached : r ≤ c.clock t := by omega
  have hreached' : r ≤ c.clock t' := by omega
  obtain rfl : t = t' := by
    refine Int.le_antisymm (Int.not_lt.mp fun hlt => ?_) (Int.not_lt.mp fun hlt => ?_)
    · exact absurd (hbefore t' hlt) (Int.not_lt.mpr hreached')
    · exact absurd (hbefore' t hlt) (Int.not_lt.mpr hreached)
  omega

/-- The last occurrence of a reading has one offset. -/
theorem LastAt.unique (h : c.LastAt r o) (h' : c.LastAt r o') : o = o' := by
  obtain ⟨t, hafter, hat⟩ := h
  obtain ⟨t', hafter', hat'⟩ := h'
  have hkept : c.clock t ≤ r := by omega
  have hkept' : c.clock t' ≤ r := by omega
  obtain rfl : t = t' := by
    refine Int.le_antisymm (Int.not_lt.mp fun hlt => ?_) (Int.not_lt.mp fun hlt => ?_)
    · exact absurd (hafter' t hlt) (Int.not_lt.mpr hkept)
    · exact absurd (hafter t' hlt) (Int.not_lt.mpr hkept')
  omega

/-! ### One offset for ever -/

/-- The course of a clock that is never changed. -/
def constant (offset : Int) : Course := ⟨fun _ => offset, fun _ _ => offset⟩

theorem sound_constant (offset : Int) : (constant offset).Sound where
  first r := ⟨r - offset, fun _ hx => Int.add_lt_of_lt_sub_right hx,
    Or.inl ⟨Int.sub_add_cancel r offset, rfl⟩⟩
  last r := ⟨r - offset, fun _ hx => Int.lt_add_of_sub_right_lt hx,
    Or.inl ⟨Int.sub_add_cancel r offset, rfl⟩⟩

/-! ### A change put before a course -/

/-- **A course with a change put before it**: an offset up to the change, and from there on
the course. -/
def after (before : Int) (change : Int × Int) (rest : Course) : Course where
  offset x := if x < change.1 then before else rest.offset x
  resolved second r :=
    if r < Zone.changeReading second before change then before else rest.resolved second r

/-- **When a course follows a change**: it has the new offset at the change; it would show
nothing before the change that is shown only after it, and shows nothing later than the
change that was shown before it; and when the clock is put forward, it has had the new
offset since a moment before which it showed nothing that is skipped. -/
structure Follows (rest : Course) (before : Int) (change : Int × Int) : Prop where
  offset_eq : rest.offset change.1 = change.2
  clock_lt : ∀ x < change.1, rest.clock x < change.1 + max before change.2
  le_clock : ∀ x, change.1 ≤ x → change.1 + min before change.2 ≤ rest.clock x
  since : before < change.2 → ∃ s ≤ change.1,
    (∀ x, s ≤ x → x ≤ change.1 → rest.offset x = change.2) ∧
      ∀ x < s, rest.clock x < change.1 + before

theorem after_offset_of_lt {x : Int} (h : x < change.1) :
    (after before change rest).offset x = before :=
  if_pos h

theorem after_offset_of_le {x : Int} (h : change.1 ≤ x) :
    (after before change rest).offset x = rest.offset x :=
  if_neg (Int.not_lt.mpr h)

theorem after_clock_of_lt {x : Int} (h : x < change.1) :
    (after before change rest).clock x = x + before := by
  rw [clock, after_offset_of_lt h]

theorem after_clock_of_le {x : Int} (h : change.1 ≤ x) :
    (after before change rest).clock x = rest.clock x := by
  rw [clock, after_offset_of_le h, clock]

theorem after_resolved_of_lt {second : Bool} (h : r < Zone.changeReading second before change) :
    (after before change rest).resolved second r = before :=
  if_pos h

theorem after_resolved_of_le {second : Bool} (h : Zone.changeReading second before change ≤ r) :
    (after before change rest).resolved second r = rest.resolved second r :=
  if_neg (Int.not_lt.mpr h)

/-- First occurrences, with a change put before a course that follows it. -/
theorem Follows.firstAt_after (h : rest.Follows before change)
    (hrest : rest.FirstAt r (rest.resolved false r)) :
    (after before change rest).FirstAt r ((after before change rest).resolved false r) := by
  have hthere : rest.clock change.1 = change.1 + change.2 := by rw [clock, h.offset_eq]
  rcases Int.lt_or_le r (Zone.changeReading false before change) with hr | hr
  · rw [after_resolved_of_lt hr]
    rw [Zone.changeReading_false] at hr
    rcases Int.lt_or_le r (change.1 + before) with hshown | hskipped
    · -- The reading is shown before the change.
      have ht : r - before < change.1 := by omega
      refine ⟨r - before, fun x hx => ?_, Or.inl ⟨?_, after_offset_of_lt ht⟩⟩
      · rw [after_clock_of_lt (Int.lt_trans hx ht)]
        omega
      · rw [after_clock_of_lt ht]
        omega
    · -- The change jumps over it.
      refine ⟨change.1, fun x hx => ?_, Or.inr ⟨?_, after_offset_of_lt (by omega)⟩⟩
      · rw [after_clock_of_lt hx]
        omega
      · rw [after_clock_of_le (Int.le_refl _), hthere]
        omega
  · rw [after_resolved_of_le hr]
    rw [Zone.changeReading_false] at hr
    obtain ⟨t, hbefore, hat⟩ := hrest
    have ht : change.1 ≤ t := by
      refine Int.not_lt.mp fun hlt => ?_
      have := h.clock_lt t hlt
      omega
    refine ⟨t, fun x hx => ?_, ?_⟩
    · rcases Int.lt_or_le x change.1 with hlt | hle
      · rw [after_clock_of_lt hlt]
        omega
      · rw [after_clock_of_le hle]
        exact hbefore x hx
    · rw [after_clock_of_le ht, after_offset_of_le ht]
      refine hat.imp_right fun ⟨hjump, hoffset⟩ => ⟨hjump, ?_⟩
      rcases Int.lt_or_eq_of_le ht with hlt | rfl
      · rw [after_offset_of_le (by omega)]
        exact hoffset
      · omega

/-- Last occurrences, with a change put before a course that follows it. -/
theorem Follows.lastAt_after (h : rest.Follows before change)
    (hrest : rest.LastAt r (rest.resolved true r)) :
    (after before change rest).LastAt r ((after before change rest).resolved true r) := by
  have hthere : rest.clock change.1 = change.1 + change.2 := by rw [clock, h.offset_eq]
  rcases Int.lt_or_le r (Zone.changeReading true before change) with hr | hr
  · rw [after_resolved_of_lt hr]
    rw [Zone.changeReading_true] at hr
    have ht : r - before < change.1 := by omega
    refine ⟨r - before, fun x hx => ?_, Or.inl ⟨?_, after_offset_of_lt ht⟩⟩
    · rcases Int.lt_or_le x change.1 with hlt | hle
      · rw [after_clock_of_lt hlt]
        omega
      · rw [after_clock_of_le hle]
        exact Int.lt_of_lt_of_le hr (h.le_clock x hle)
    · rw [after_clock_of_lt ht]
      omega
  · rw [after_resolved_of_le hr]
    rw [Zone.changeReading_true] at hr
    obtain ⟨t, hafter, hat⟩ := hrest
    rcases Int.lt_or_le t change.1 with hlt | hle
    · -- The rest alone shows the reading for the last time before the change, or jumps over
      -- it there: the change skips it, and the rest has the new offset already.
      have hbeyond := hafter change.1 hlt
      obtain ⟨s, hs, hsince, hshown⟩ := h.since (by omega)
      refine ⟨change.1 - 1, fun x hx => ?_, Or.inr ⟨?_, ?_⟩⟩
      · rw [after_clock_of_le (by omega)]
        exact hafter x (by omega)
      · rw [after_clock_of_lt (by omega)]
        omega
      · rw [Int.sub_add_cancel, after_offset_of_le (Int.le_refl _), h.offset_eq]
        have hst : s ≤ t + 1 := by
          refine Int.not_lt.mp fun hgt => ?_
          have := hafter (s - 1) (by omega)
          have := hshown (s - 1) (by omega)
          omega
        rcases hat with ⟨hclock, hoffset⟩ | ⟨-, hoffset⟩
        · have hst : s ≤ t := by
            refine Int.not_lt.mp fun hgt => ?_
            have := hshown t hgt
            omega
          rw [← hoffset, hsince t hst (Int.le_of_lt hlt)]
        · rw [← hoffset, hsince (t + 1) hst hlt]
    · refine ⟨t, fun x hx => ?_, ?_⟩
      · rw [after_clock_of_le (by omega)]
        exact hafter x hx
      · rw [after_clock_of_le hle, after_offset_of_le hle, after_offset_of_le (by omega)]
        exact hat

/-- **A sound course stays sound with a change before it that it follows.** -/
theorem Sound.after (h : rest.Sound) (hfollows : rest.Follows before change) :
    (after before change rest).Sound where
  first r := hfollows.firstAt_after (h.first r)
  last r := hfollows.lastAt_after (h.last r)

/-- The new offset for ever follows a change. -/
theorem follows_constant (before : Int) (change : Int × Int) :
    (constant change.2).Follows before change where
  offset_eq := rfl
  clock_lt x hx := by
    show x + change.2 < _
    omega
  le_clock x hx := by
    show _ ≤ x + change.2
    omega
  since h := ⟨change.1 + before - change.2, by omega, fun _ _ _ => rfl, fun x hx => by
    show x + change.2 < _
    omega⟩

/-- **A next change follows a change** if it comes later and begins no earlier reading. -/
theorem Follows.after {next : Int × Int} (h : rest.Follows change.2 next)
    (hmoment : change.1 < next.1)
    (hreading : Zone.changeReading true before change ≤ Zone.changeReading true change.2 next) :
    (after change.2 next rest).Follows before change := by
  rw [Zone.changeReading_true, Zone.changeReading_true] at hreading
  refine ⟨after_offset_of_lt hmoment, fun x hx => ?_, fun x hx => ?_, fun hforward => ?_⟩
  · rw [after_clock_of_lt (Int.lt_trans hx hmoment)]
    omega
  · rcases Int.lt_or_le x next.1 with hlt | hle
    · rw [after_clock_of_lt hlt]
      omega
    · rw [after_clock_of_le hle]
      exact Int.le_trans hreading (h.le_clock x hle)
  · refine ⟨change.1 + before - change.2, by omega, fun x _ hx => ?_, fun x hx => ?_⟩
    · exact after_offset_of_lt (Int.lt_of_le_of_lt hx hmoment)
    · rw [after_clock_of_lt (by omega)]
      omega

/-! ### Moments near a reading -/

/-- The offsets of a course are less than a day. -/
def Small (c : Course) : Prop := ∀ x, -86400 < c.offset x ∧ c.offset x < 86400

/-- Two courses have the same offsets within two days of a moment. -/
def Near (c c' : Course) (n : Int) : Prop :=
  ∀ x, n - 172800 ≤ x → x ≤ n + 172800 → c.offset x = c'.offset x

theorem Near.clock_eq {n x : Int} (h : c.Near c' n) (hfrom : n - 172800 ≤ x)
    (hto : x ≤ n + 172800) : c.clock x = c'.clock x := by
  rw [clock, clock, h x hfrom hto]

/-- **Near courses come to a reading at the same moments**: at all others both are far from
it, on the same side. -/
theorem Near.compare {n : Int} (h : c.Near c' n) (hsmall : c.Small) (hsmall' : c'.Small)
    (hn : n - 86400 < r ∧ r < n + 86400) (x : Int) :
    (c.clock x < r ↔ c'.clock x < r) ∧ (c.clock x = r ↔ c'.clock x = r) := by
  by_cases hx : n - 172800 ≤ x ∧ x ≤ n + 172800
  · rw [h.clock_eq hx.1 hx.2]
    exact ⟨Iff.rfl, Iff.rfl⟩
  · have := hsmall x
    have := hsmall' x
    rw [clock, clock]
    omega

/-- The first occurrence of a reading depends on the moments near it. -/
theorem FirstAt.near {n : Int} (h : c.FirstAt r o) (hsmall : c.Small) (hsmall' : c'.Small)
    (hnear : c.Near c' n) (hn : n - 86400 < r ∧ r < n + 86400) : c'.FirstAt r o := by
  have hcompare := hnear.compare hsmall hsmall' hn
  obtain ⟨t, hbefore, hat⟩ := h
  have hlast := hbefore (t - 1) (by omega)
  have hsmall1 := hsmall (t - 1)
  have hsmall2 := hsmall t
  rw [clock] at hlast
  refine ⟨t, fun x hx => (hcompare x).1.mp (hbefore x hx), ?_⟩
  refine hat.imp (fun ⟨hclock, hoffset⟩ => ?_) fun ⟨hjump, hoffset⟩ => ?_
  · rw [clock] at hclock
    exact ⟨(hcompare t).2.mp hclock, (hnear t (by omega) (by omega)).symm.trans hoffset⟩
  · have hjump' : r < c'.clock t := by
      have := hcompare t
      omega
    rw [clock] at hjump
    refine ⟨hjump', (hnear (t - 1) ?_ ?_).symm.trans hoffset⟩ <;> omega

/-- The last occurrence of a reading depends on the moments near it. -/
theorem LastAt.near {n : Int} (h : c.LastAt r o) (hsmall : c.Small) (hsmall' : c'.Small)
    (hnear : c.Near c' n) (hn : n - 86400 < r ∧ r < n + 86400) : c'.LastAt r o := by
  have hcompare := hnear.compare hsmall hsmall' hn
  obtain ⟨t, hafter, hat⟩ := h
  have hnext := hafter (t + 1) (by omega)
  have hsmall1 := hsmall (t + 1)
  have hsmall2 := hsmall t
  rw [clock] at hnext
  refine ⟨t, fun x hx => ?_, ?_⟩
  · have := hcompare x
    have := hafter x hx
    omega
  · refine hat.imp (fun ⟨hclock, hoffset⟩ => ?_) fun ⟨hjump, hoffset⟩ => ?_
    · rw [clock] at hclock
      exact ⟨(hcompare t).2.mp hclock, (hnear t (by omega) (by omega)).symm.trans hoffset⟩
    · refine ⟨(hcompare t).1.mp hjump, ?_⟩
      rw [clock] at hjump
      exact (hnear (t + 1) (by omega) (by omega)).symm.trans hoffset

/-- Whether a course follows a change depends on the moments near the change. -/
theorem Follows.near (h : c.Follows before change) (hsmall' : c'.Small)
    (hbefore : -86400 < before ∧ before < 86400) (hnear : c.Near c' change.1) :
    c'.Follows before change := by
  have hthere : c'.offset change.1 = change.2 := by
    rw [← hnear _ (by omega) (by omega)]
    exact h.offset_eq
  have hafter := hsmall' change.1
  rw [hthere] at hafter
  refine ⟨hthere, fun x hx => ?_, fun x hx => ?_, fun hforward => ?_⟩
  · rcases Int.lt_or_le x (change.1 - 172800) with hlt | hle
    · have := hsmall' x
      rw [clock]
      omega
    · rw [← hnear.clock_eq hle (by omega)]
      exact h.clock_lt x hx
  · rcases Int.lt_or_le (change.1 + 172800) x with hlt | hle
    · have := hsmall' x
      rw [clock]
      omega
    · rw [← hnear.clock_eq (by omega) hle]
      exact h.le_clock x hx
  · obtain ⟨s, hs, hsince, hshown⟩ := h.since hforward
    refine ⟨max s (change.1 - 172800), by omega, fun x hxs hx => ?_, fun x hx => ?_⟩
    · rw [← hnear x (by omega) (by omega)]
      exact hsince x (by omega) hx
    · rcases Int.lt_or_le x (change.1 - 172800) with hlt | hle
      · have := hsmall' x
        rw [clock]
        omega
      · rw [← hnear.clock_eq hle (by omega)]
        exact hshown x (by omega)

/-! ### Where the clock passes a reading -/

/-- **The clock passes a reading once and for all** at a moment: from there on it shows the
reading or later ones, and before only earlier ones. -/
def Passes (c : Course) (r t : Int) : Prop := ∀ x, r ≤ c.clock x ↔ t ≤ x

theorem Passes.lt_iff (h : c.Passes r t) {x : Int} : c.clock x < r ↔ x < t := by
  rw [← Int.not_le, h x, Int.not_le]

/-- The clock shows a reading at a moment and never else. -/
def ShowsOnce (c : Course) (r t : Int) : Prop := ∀ x, c.clock x = r ↔ x = t

/-- The clock comes up to a reading before a moment, or starts from it there. -/
def Meets (c : Course) (r t : Int) : Prop := c.clock t = r ∨ c.clock (t - 1) = r - 1

/-- **When a day can begin at a reading**: the clock passes it once and for all. For the
first occurrence it must not jump over the reading from before it to beyond it, and for the
second occurrence there must be only one. -/
def Begins (c : Course) (second : Bool) (r : Int) : Prop :=
  ∃ t, c.Passes r t ∧ if second then c.ShowsOnce r t else c.Meets r t

/-- **When a day can end before a reading**: the clock passes it once and for all. For the
first occurrence of the last second before it there must be only one, and for the second
occurrence the clock must not jump over the reading from before that second to beyond it. -/
def Ends (c : Course) (second : Bool) (r : Int) : Prop :=
  ∃ t, c.Passes r t ∧ if second then c.Meets r t else c.ShowsOnce (r - 1) (t - 1)

theorem FirstAt.begins_iff (h : c.FirstAt r o) : c.Passes r (r - o) ↔ c.Begins false r := by
  obtain ⟨t, hbefore, hat⟩ := h
  have hreached : r ≤ c.clock t := by omega
  -- Where the clock passes the reading, it reaches it for the first time.
  have hsame : ∀ {t'}, c.Passes r t' → t' = t := fun {t'} hpasses => by
    refine Int.le_antisymm ((hpasses t).mp hreached) (Int.not_lt.mp fun hlt => ?_)
    exact absurd (hpasses.lt_iff.mp (hbefore t' hlt)) (Int.lt_irrefl t')
  constructor
  · intro hpasses
    obtain rfl := hsame hpasses
    refine ⟨_, hpasses, hat.imp And.left fun ⟨_, hoffset⟩ => ?_⟩
    rw [clock, hoffset]
    omega
  · rintro ⟨t', hpasses, hmeets⟩
    obtain rfl := hsame hpasses
    have htime : r - o = t' := by
      rcases hat with ⟨hclock, hoffset⟩ | ⟨hjump, hoffset⟩
      · rw [clock, hoffset] at hclock
        omega
      · rcases hmeets with hclock | hclock
        · omega
        · rw [clock, hoffset] at hclock
          omega
    rw [htime]
    exact hpasses

theorem LastAt.begins_iff (h : c.LastAt r o) : c.Passes r (r - o) ↔ c.Begins true r := by
  obtain ⟨t, hafter, hat⟩ := h
  constructor
  · intro hpasses
    rcases hat with ⟨hclock, hoffset⟩ | ⟨hclock, hoffset⟩
    · have htime : r - o = t := by
        rw [clock, hoffset] at hclock
        omega
      rw [htime] at hpasses
      refine ⟨t, hpasses, fun x => ⟨fun hx => ?_, fun hx => hx ▸ hclock⟩⟩
      refine Int.le_antisymm (Int.not_lt.mp fun hlt => ?_) ((hpasses x).mp (Int.le_of_eq hx.symm))
      exact absurd hx (Int.ne_of_gt (hafter x hlt))
    · -- A reading that is jumped over is passed where the clock shows a later one.
      have hbeyond := hafter (t + 1) (by omega)
      have hnot := hpasses.lt_iff.mp hclock
      have hthere := (hpasses (t + 1)).mp (Int.le_of_lt hbeyond)
      rw [clock, hoffset] at hbeyond
      omega
  · rintro ⟨t', hpasses, honce⟩
    have hshown : c.clock t' = r := (honce t').mpr rfl
    have hle : t' ≤ t := Int.not_lt.mp fun hlt => absurd hshown (Int.ne_of_gt (hafter t' hlt))
    have hreached : r ≤ c.clock t := (hpasses t).mpr hle
    rcases hat with ⟨hclock, hoffset⟩ | ⟨hclock, -⟩
    · obtain rfl : t = t' := (honce t).mp hclock
      rw [clock, hoffset] at hclock
      rw [show r - o = t by omega]
      exact hpasses
    · omega

theorem LastAt.ends_iff (h : c.LastAt (r - 1) o) : c.Passes r (r - o) ↔ c.Ends true r := by
  obtain ⟨t, hafter, hat⟩ := h
  have hkept : c.clock t < r := by omega
  have hsame : ∀ {t'}, c.Passes r t' → t' = t + 1 := fun {t'} hpasses => by
    have hlt : t < t' := hpasses.lt_iff.mp hkept
    have hbeyond := hafter (t + 1) (by omega)
    have hle : t' ≤ t + 1 := (hpasses (t + 1)).mp (by omega)
    omega
  constructor
  · intro hpasses
    have htime := hsame hpasses
    rw [htime] at hpasses
    refine ⟨t + 1, hpasses, (hat.imp (fun ⟨hclock, _⟩ => ?_) fun ⟨_, hoffset⟩ => ?_).symm⟩
    · rw [Int.add_sub_cancel, hclock]
    · rw [clock, hoffset]
      omega
  · rintro ⟨t', hpasses, hmeets⟩
    obtain rfl := hsame hpasses
    have htime : r - o = t + 1 := by
      rcases hat with ⟨hclock, hoffset⟩ | ⟨hjump, hoffset⟩
      · rw [clock, hoffset] at hclock
        omega
      · rcases hmeets with hclock | hclock
        · rw [clock, hoffset] at hclock
          omega
        · rw [Int.add_sub_cancel] at hclock
          omega
    rw [htime]
    exact hpasses

theorem FirstAt.ends_iff (h : c.FirstAt (r - 1) o) : c.Passes r (r - o) ↔ c.Ends false r := by
  obtain ⟨t, hbefore, hat⟩ := h
  constructor
  · intro hpasses
    rcases hat with ⟨hclock, hoffset⟩ | ⟨hclock, hoffset⟩
    · have htime : r - o = t + 1 := by
        rw [clock, hoffset] at hclock
        omega
      rw [htime] at hpasses
      refine ⟨t + 1, hpasses, ?_⟩
      show c.ShowsOnce (r - 1) (t + 1 - 1)
      rw [Int.add_sub_cancel]
      refine fun x => ⟨fun hx => ?_, fun hx => hx ▸ hclock⟩
      have hlt : x < t + 1 := hpasses.lt_iff.mp (by omega)
      have hge : t ≤ x := Int.not_lt.mp fun hlt => absurd hx (Int.ne_of_lt (hbefore x hlt))
      omega
    · have hshort := hbefore (t - 1) (by omega)
      have hnot := hpasses.lt_iff.mp (show c.clock (t - 1) < r by omega)
      have hthere := (hpasses t).mp (by omega)
      rw [clock, hoffset] at hshort
      omega
  · rintro ⟨t', hpasses, honce⟩
    have hshown : c.clock (t' - 1) = r - 1 := (honce (t' - 1)).mpr rfl
    have hle : t ≤ t' - 1 :=
      Int.not_lt.mp fun hlt => absurd hshown (Int.ne_of_lt (hbefore (t' - 1) hlt))
    have hkept : c.clock t < r := hpasses.lt_iff.mpr (by omega)
    rcases hat with ⟨hclock, hoffset⟩ | ⟨hclock, -⟩
    · obtain rfl : t = t' - 1 := (honce t).mp hclock
      rw [clock, hoffset] at hclock
      rw [show r - o = t' by omega]
      exact hpasses
    · omega

/-- **A reading resolved by the convention is where a day begins**, exactly when a day can
begin at it. -/
theorem Sound.begins_iff (h : c.Sound) (second : Bool) (r : Int) :
    c.Passes r (r - c.resolved second r) ↔ c.Begins second r := by
  cases second with
  | false => exact (h.first r).begins_iff
  | true => exact (h.last r).begins_iff

/-- **The last second resolved by the convention is where a day ends**, exactly when a day
can end with it. -/
theorem Sound.ends_iff (h : c.Sound) (second : Bool) (r : Int) :
    c.Passes r (r - c.resolved second (r - 1)) ↔ c.Ends second r := by
  cases second with
  | false => exact (h.first (r - 1)).ends_iff
  | true => exact (h.last (r - 1)).ends_iff

/-! ### Days that begin and end as usual -/

/-- Where a clock passes a reading depends on the moments near it. -/
theorem Passes.near {n : Int} (h : c.Passes r t) (hsmall : c.Small) (hsmall' : c'.Small)
    (hnear : c.Near c' n) (hn : n - 86400 < r ∧ r < n + 86400) : c'.Passes r t := fun x => by
  rw [← h x, ← Int.not_lt, ← Int.not_lt, (hnear.compare hsmall hsmall' hn x).1]

theorem ShowsOnce.near {n : Int} (h : c.ShowsOnce r t) (hsmall : c.Small) (hsmall' : c'.Small)
    (hnear : c.Near c' n) (hn : n - 86400 < r ∧ r < n + 86400) : c'.ShowsOnce r t := fun x => by
  rw [← h x, (hnear.compare hsmall hsmall' hn x).2]

theorem Meets.near (h : c.Meets r t) (hsmall : c.Small) (hsmall' : c'.Small)
    (hnear : c.Near c' r) : c'.Meets r t :=
  h.imp (hnear.compare hsmall hsmall' (by omega) t).2.mp
    (hnear.compare hsmall hsmall' (by omega) (t - 1)).2.mp

/-- Whether a day can begin at a reading depends on the moments near it. -/
theorem Begins.near {second : Bool} (h : c.Begins second r) (hsmall : c.Small)
    (hsmall' : c'.Small) (hnear : c.Near c' r) : c'.Begins second r := by
  obtain ⟨t, hpasses, hkind⟩ := h
  refine ⟨t, hpasses.near hsmall hsmall' hnear (by omega), ?_⟩
  cases second with
  | false => exact Meets.near hkind hsmall hsmall' hnear
  | true => exact ShowsOnce.near hkind hsmall hsmall' hnear (by omega)

/-- Whether a day can end before a reading depends on the moments near it. -/
theorem Ends.near {second : Bool} (h : c.Ends second r) (hsmall : c.Small)
    (hsmall' : c'.Small) (hnear : c.Near c' r) : c'.Ends second r := by
  obtain ⟨t, hpasses, hkind⟩ := h
  refine ⟨t, hpasses.near hsmall hsmall' hnear (by omega), ?_⟩
  cases second with
  | false => exact ShowsOnce.near hkind hsmall hsmall' hnear (by omega)
  | true => exact Meets.near hkind hsmall hsmall' hnear

/-- **A clock that is not changed near a reading** lets a day begin and end there, whichever
occurrence is meant. -/
theorem begins_and_ends_of_near_constant (ho : -86400 < o ∧ o < 86400) (hsmall : c.Small)
    (hnear : (constant o).Near c r) (second : Bool) : c.Begins second r ∧ c.Ends second r := by
  have hclock : ∀ x, (constant o).clock x = x + o := fun _ => rfl
  have hpasses : (constant o).Passes r (r - o) := fun x => by
    rw [hclock]
    omega
  have hmeets : (constant o).Meets r (r - o) := Or.inl (by
    rw [hclock]
    omega)
  have honce : ∀ n, (constant o).ShowsOnce n (n - o) := fun n x => by
    rw [hclock]
    omega
  have hlast : (constant o).ShowsOnce (r - 1) (r - o - 1) := by
    rw [show r - o - 1 = r - 1 - o by omega]
    exact honce (r - 1)
  constructor
  · refine Begins.near ⟨r - o, hpasses, ?_⟩ (fun _ => ho) hsmall hnear
    cases second with
    | false => exact hmeets
    | true => exact honce r
  · refine Ends.near ⟨r - o, hpasses, ?_⟩ (fun _ => ho) hsmall hnear
    cases second with
    | false => exact hlast
    | true => exact hmeets

end Course

end RelationalSearch
