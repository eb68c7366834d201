import Mathlib.Tactic.Common
import RelationalSearch.Proofs.Composition

/-!
# What a predicate asks of a row

A database is seen by a predicate through the rows of its tables and through the
question whether two cells of two rows hold the same key; with a reading of the
comparisons as tests of single rows, every predicate says something of a row.
A group is the conjunction or the disjunction of those of its members that ask for
something, a group that asks for nothing holds of every row, and a semi-join holds
when some related row satisfies its group.

The main statement is that composition keeps this meaning
(`RelationalSearch.Contents.satisfies_of`), on arbitrary trees.
-/

namespace RelationalSearch

/-- **What a database holds**, as far as a predicate looks at it. -/
structure Contents where
  Row : Type
  /-- The rows of a table. -/
  rows : String → Row → Prop
  /-- Whether a cell of one row and a cell of another hold the same key. -/
  sameKey : Row → String → Row → String → Prop

/-- A row of the target is related to a row: by a key of its own, or through a row
of the association table. -/
def Contents.related (db : Contents) (relation : Relation) (targetTable : String)
    (row other : db.Row) : Prop :=
  db.rows targetTable other ∧
    match relation.secondary with
    | none => db.sameKey row relation.localKey other relation.remoteKey
    | some link => ∃ between, db.rows link.table between ∧
        db.sameKey row relation.localKey between link.localKey ∧
        db.sameKey between link.remoteKey other relation.remoteKey

/-! ### Predicates that ask for nothing -/

namespace Predicate

mutual

/-- Whether a predicate asks for nothing: it is a group without a comparison or a
semi-join below it. -/
def asksNothing : Predicate → Bool
  | condition _ => false
  | group _ members => allAskNothing members
  | related .. => false

/-- Whether several predicates all ask for nothing. -/
def allAskNothing : List Predicate → Bool
  | [] => true
  | p :: rest => asksNothing p && allAskNothing rest

end

theorem allAskNothing_append (ps qs : List Predicate) :
    allAskNothing (ps ++ qs) = (allAskNothing ps && allAskNothing qs) := by
  induction ps with
  | nil => rfl
  | cons p ps ih => rw [List.cons_append, allAskNothing, allAskNothing, ih, Bool.and_assoc]

theorem asksNothing_unwrapped (p : Predicate) : p.unwrapped.asksNothing = p.asksNothing := by
  fun_induction unwrapped p with
  | case1 c p ih => rw [ih, asksNothing, allAskNothing, allAskNothing, Bool.and_true]
  | case2 => rfl

end Predicate

/-! ### The meaning -/

namespace Contents

variable (db : Contents) (test : Condition → db.Row → Prop)

mutual

/-- **What a predicate says of a row.** -/
def Satisfies : Predicate → db.Row → Prop
  | .condition c, row => test c row
  | .group .and members, row => SatisfiesAll members row
  | .group .or members, row =>
    Predicate.allAskNothing members = true ∨ SatisfiesSome members row
  | .related relation table .and members, row =>
    ∃ other, db.related relation table row other ∧ SatisfiesAll members other
  | .related relation table .or members, row =>
    ∃ other, db.related relation table row other ∧
      (Predicate.allAskNothing members = true ∨ SatisfiesSome members other)

/-- All members that ask for something hold of a row. -/
def SatisfiesAll : List Predicate → db.Row → Prop
  | [], _ => True
  | p :: rest, row => (p.asksNothing = true ∨ Satisfies p row) ∧ SatisfiesAll rest row

/-- Some member that asks for something holds of a row. -/
def SatisfiesSome : List Predicate → db.Row → Prop
  | [], _ => False
  | p :: rest, row => (p.asksNothing = false ∧ Satisfies p row) ∨ SatisfiesSome rest row

end

variable {db test} {row : db.Row}

/-- A semi-join holds when its group holds of a related row. -/
theorem satisfies_related {relation : Relation} {table : String} {g : Group} :
    db.Satisfies test (Group.related relation table g) row ↔
      ∃ other, db.related relation table row other ∧ db.Satisfies test g.toPredicate other := by
  obtain ⟨connective, members⟩ := g
  cases connective <;> rw [Group.related, Group.toPredicate, Satisfies] <;> simp only [Satisfies]

theorem satisfiesAll_of_allAskNothing {ps : List Predicate}
    (h : Predicate.allAskNothing ps = true) : db.SatisfiesAll test ps row := by
  induction ps with
  | nil => trivial
  | cons p ps ih =>
    obtain ⟨hp, hps⟩ := Bool.and_eq_true_iff.mp h
    exact ⟨Or.inl hp, ih hps⟩

/-- What asks for nothing holds of every row. -/
theorem satisfies_of_asksNothing {p : Predicate} (h : p.asksNothing = true) :
    db.Satisfies test p row := by
  match p with
  | .condition _ => exact absurd h (by simp [Predicate.asksNothing])
  | .related .. => exact absurd h (by simp [Predicate.asksNothing])
  | .group .and members => exact satisfiesAll_of_allAskNothing h
  | .group .or members => exact Or.inl h

theorem satisfiesAll_iff {ps : List Predicate} :
    db.SatisfiesAll test ps row ↔ ∀ p ∈ ps, db.Satisfies test p row := by
  induction ps with
  | nil => exact iff_of_true trivial fun p hp => absurd hp List.not_mem_nil
  | cons p ps ih =>
    rw [SatisfiesAll, ih, List.forall_mem_cons]
    exact and_congr_left fun _ => ⟨fun h => h.elim satisfies_of_asksNothing id, Or.inr⟩

theorem satisfiesAll_append {ps qs : List Predicate} :
    db.SatisfiesAll test (ps ++ qs) row ↔
      db.SatisfiesAll test ps row ∧ db.SatisfiesAll test qs row := by
  simp only [satisfiesAll_iff, List.forall_mem_append]

theorem satisfiesSome_append {ps qs : List Predicate} :
    db.SatisfiesSome test (ps ++ qs) row ↔
      db.SatisfiesSome test ps row ∨ db.SatisfiesSome test qs row := by
  induction ps with
  | nil => exact (iff_of_eq (false_or _)).symm
  | cons p ps ih => rw [List.cons_append, SatisfiesSome, SatisfiesSome, ih, or_assoc]

/-- What some member asks for is asked for. -/
theorem allAskNothing_of_satisfiesSome {ps : List Predicate} (h : db.SatisfiesSome test ps row) :
    Predicate.allAskNothing ps = false := by
  induction ps with
  | nil => exact absurd h id
  | cons p ps ih =>
    rw [Predicate.allAskNothing, Bool.and_eq_false_iff]
    exact h.imp And.left ih

/-! ### Groups of one member -/

theorem satisfiesAll_singleton {p : Predicate} :
    db.SatisfiesAll test [p] row ↔ db.Satisfies test p row := by
  rw [satisfiesAll_iff, List.forall_mem_singleton]

theorem satisfies_singleton {connective : Connective} {p : Predicate} :
    db.Satisfies test (.group connective [p]) row ↔ db.Satisfies test p row := by
  cases connective with
  | and => exact satisfiesAll_singleton
  | or =>
    rw [Satisfies, SatisfiesSome, SatisfiesSome, or_false, Predicate.allAskNothing,
      Predicate.allAskNothing, Bool.and_true]
    refine ⟨fun h => h.elim satisfies_of_asksNothing And.right, fun h => ?_⟩
    cases hp : p.asksNothing with
    | true => exact Or.inl rfl
    | false => exact Or.inr ⟨rfl, h⟩

theorem satisfies_unwrapped (p : Predicate) :
    db.Satisfies test p.unwrapped row ↔ db.Satisfies test p row := by
  fun_induction Predicate.unwrapped p with
  | case1 c p ih => rw [ih, satisfies_singleton]
  | case2 => rfl

/-! ### Composition keeps the meaning

A part of a group contributes its own members, itself or nothing; in each case
what it contributes says the same as the part does in the group. -/

theorem allAskNothing_contribution (connective : Connective) (p : Predicate) :
    Predicate.allAskNothing (p.contribution connective) = p.asksNothing := by
  have h := Predicate.asksNothing_unwrapped p
  rw [Predicate.contribution]
  split
  next c members heq =>
    rw [heq, Predicate.asksNothing] at h
    split
    next hempty => rw [← h, List.isEmpty_iff.mp hempty]
    next =>
      split
      · exact h
      · rw [Predicate.allAskNothing, Predicate.allAskNothing, Bool.and_true,
          Predicate.asksNothing, h]
  next => rw [Predicate.allAskNothing, Predicate.allAskNothing, Bool.and_true, h]

theorem satisfiesAll_contribution (p : Predicate) :
    db.SatisfiesAll test (p.contribution .and) row ↔ db.Satisfies test p row := by
  rw [← satisfies_unwrapped p, Predicate.contribution]
  split
  next c members heq =>
    rw [heq]
    split
    next hempty =>
      -- An empty group is dropped, and it holds of every row.
      rw [List.isEmpty_iff.mp hempty]
      exact iff_of_true trivial (satisfies_of_asksNothing rfl)
    next =>
      split
      next hc => rw [hc, Satisfies]
      next => exact satisfiesAll_singleton
  next => exact satisfiesAll_singleton

theorem satisfiesSome_contribution (p : Predicate) :
    db.SatisfiesSome test (p.contribution .or) row ↔
      p.asksNothing = false ∧ db.Satisfies test p row := by
  rw [← satisfies_unwrapped p, ← Predicate.asksNothing_unwrapped p, Predicate.contribution]
  have hself : ∀ q : Predicate, db.SatisfiesSome test [q] row ↔
      q.asksNothing = false ∧ db.Satisfies test q row := fun q => by
    rw [SatisfiesSome, SatisfiesSome, or_false]
  split
  next c members heq =>
    rw [heq]
    split
    next hempty =>
      -- An empty group is dropped, and it is no alternative.
      rw [List.isEmpty_iff.mp hempty]
      have hasks : (Predicate.group c []).asksNothing = true := rfl
      exact iff_of_false id fun h => absurd (hasks.symm.trans h.1) (by decide)
    next =>
      split
      next hc =>
        rw [hc, Satisfies, Predicate.asksNothing]
        refine ⟨fun h => ⟨allAskNothing_of_satisfiesSome h, Or.inr h⟩, ?_⟩
        rintro ⟨hasks, h⟩
        exact h.resolve_left (by rw [hasks]; decide)
      next => exact hself _
  next => exact hself _

/-- **Composition keeps the meaning**: a composed group says of a row what the
plain group of its parts says. -/
theorem satisfies_of (connective : Connective) (parts : List Predicate) :
    db.Satisfies test (Group.of connective parts).toPredicate row ↔
      db.Satisfies test (.group connective parts) row := by
  cases connective with
  | and =>
    rw [Group.of, Group.toPredicate, Satisfies, Satisfies]
    induction parts with
    | nil => rfl
    | cons p parts ih =>
      rw [List.flatMap_cons, satisfiesAll_append, ih, satisfiesAll_contribution, SatisfiesAll]
      exact and_congr_left fun _ => satisfiesAll_singleton.symm.trans (and_iff_left trivial)
  | or =>
    rw [Group.of, Group.toPredicate, Satisfies, Satisfies]
    have hasks : Predicate.allAskNothing (parts.flatMap (Predicate.contribution .or)) =
        Predicate.allAskNothing parts := by
      induction parts with
      | nil => rfl
      | cons p parts ih =>
        rw [List.flatMap_cons, Predicate.allAskNothing_append, ih, allAskNothing_contribution,
          Predicate.allAskNothing]
    -- It remains to compare the alternatives themselves, part by part.
    rw [hasks]
    refine or_congr_right ?_
    clear hasks
    induction parts with
    | nil => rfl
    | cons p parts ih =>
      rw [List.flatMap_cons, satisfiesSome_append, ih, satisfiesSome_contribution, SatisfiesSome]

end Contents

end RelationalSearch
