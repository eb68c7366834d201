import Mathlib.Data.List.Perm.Basic
import RelationalSearch.Proofs.Leaves
import RelationalSearch.Proofs.Lookup

/-!
# The order of what is asked for

Two predicates may differ in nothing but the order in which the members of their
groups stand, in groups at every depth and in the groups of semi-joins
(`RelationalSearch.Predicate.Reordered`). Composition keeps to that: a group of one
member is opened on both sides or on none, because no order changes how many members
a group has, and so groups composed of such parts differ in nothing else either
(`RelationalSearch.Group.reordered_of`).

The predicate of an entity's own columns takes the columns in the order of the
parameters, so that parameters that come in another order lead to another order of
its members, and to nothing else (`RelationalSearch.reordered_buildPredicate`).
-/

namespace RelationalSearch

namespace Predicate

mutual

/-- **The same predicate up to the order of members**, in groups at every depth. -/
inductive Reordered : Predicate → Predicate → Prop
  /-- A comparison stays as it is. -/
  | condition (c : Condition) : Reordered (condition c) (condition c)
  /-- The members of a group stand in any order. -/
  | group (connective : Connective) {members members' : List Predicate} :
      ReorderedAll members members' → Reordered (group connective members)
        (group connective members')
  /-- So do those of the group of a semi-join. -/
  | related (relation : Relation) (targetTable : String) (connective : Connective)
      {members members' : List Predicate} :
      ReorderedAll members members' → Reordered (related relation targetTable connective members)
        (related relation targetTable connective members')

/-- The same predicates in any order, each up to the order of its members. -/
inductive ReorderedAll : List Predicate → List Predicate → Prop
  | nil : ReorderedAll [] []
  | cons {p p' : Predicate} {ps ps' : List Predicate} :
      Reordered p p' → ReorderedAll ps ps' → ReorderedAll (p :: ps) (p' :: ps')
  | swap (p q : Predicate) (ps : List Predicate) : ReorderedAll (p :: q :: ps) (q :: p :: ps)
  | trans {ps qs rs : List Predicate} :
      ReorderedAll ps qs → ReorderedAll qs rs → ReorderedAll ps rs

end

variable {p q r : Predicate} {ps qs rs : List Predicate} {connective : Connective}

/-! ### A change of order is an equivalence -/

mutual

theorem Reordered.refl : ∀ p : Predicate, p.Reordered p
  | .condition c => .condition c
  | .group connective members => .group connective (ReorderedAll.refl members)
  | .related relation table connective members =>
    .related relation table connective (ReorderedAll.refl members)

theorem ReorderedAll.refl : ∀ ps : List Predicate, ReorderedAll ps ps
  | [] => .nil
  | p :: ps => .cons (Reordered.refl p) (ReorderedAll.refl ps)

end

theorem Reordered.trans (h : p.Reordered q) (h' : q.Reordered r) : p.Reordered r := by
  cases h with
  | condition c => exact h'
  | group connective hmembers =>
    cases h' with
    | group _ hmembers' => exact .group connective (hmembers.trans hmembers')
  | related relation table connective hmembers =>
    cases h' with
    | related _ _ _ hmembers' => exact .related relation table connective (hmembers.trans hmembers')

theorem ReorderedAll.of_perm (h : ps.Perm qs) : ReorderedAll ps qs := by
  induction h with
  | nil => exact .nil
  | cons p _ ih => exact .cons (Reordered.refl p) ih
  | swap p q ps => exact .swap q p ps
  | trans _ _ ih ih' => exact ih.trans ih'

/-- No order changes how many there are. -/
theorem ReorderedAll.length_eq : ∀ {ps qs : List Predicate}, ReorderedAll ps qs →
    ps.length = qs.length
  | _, _, .nil => rfl
  | _, _, .cons _ h => congrArg (· + 1) h.length_eq
  | _, _, .swap _ _ _ => rfl
  | _, _, .trans h h' => h.length_eq.trans h'.length_eq

theorem ReorderedAll.isEmpty_eq (h : ReorderedAll ps qs) : ps.isEmpty = qs.isEmpty := by
  rw [Bool.eq_iff_iff, List.isEmpty_iff, List.isEmpty_iff, ← List.length_eq_zero_iff,
    ← List.length_eq_zero_iff, h.length_eq]

/-- A single predicate has no other order. -/
theorem ReorderedAll.of_singleton : ∀ {ps qs : List Predicate} {p : Predicate},
    ReorderedAll ps qs → ps = [p] → ∃ q, qs = [q] ∧ p.Reordered q
  | _, _, _, .cons hp h, hps => by
    obtain ⟨rfl, rfl⟩ := List.cons.inj hps
    exact ⟨_, by rw [List.length_eq_zero_iff.mp h.length_eq.symm], hp⟩
  | _, _, _, .trans h h', hps => by
    obtain ⟨q, hqs, hq⟩ := h.of_singleton hps
    obtain ⟨r, hrs, hr⟩ := h'.of_singleton hqs
    exact ⟨r, hrs, hq.trans hr⟩

theorem ReorderedAll.append_right (rs : List Predicate) : ∀ {ps qs : List Predicate},
    ReorderedAll ps qs → ReorderedAll (ps ++ rs) (qs ++ rs)
  | _, _, .nil => ReorderedAll.refl rs
  | _, _, .cons hp h => .cons hp (h.append_right rs)
  | _, _, .swap p q ps => .swap p q (ps ++ rs)
  | _, _, .trans h h' => (h.append_right rs).trans (h'.append_right rs)

theorem ReorderedAll.append_left (h : ReorderedAll qs rs) : ReorderedAll (ps ++ qs) (ps ++ rs) := by
  induction ps with
  | nil => exact h
  | cons p ps ih => exact .cons (Reordered.refl p) ih

theorem ReorderedAll.append {ss : List Predicate} (h : ReorderedAll ps qs)
    (h' : ReorderedAll rs ss) : ReorderedAll (ps ++ rs) (qs ++ ss) :=
  (h.append_right rs).trans h'.append_left

/-- What each predicate contributes, put together, is the same up to order when each
contribution is. -/
theorem ReorderedAll.flatMap {f : Predicate → List Predicate}
    (hf : ∀ {p q : Predicate}, p.Reordered q → ReorderedAll (f p) (f q)) :
    ∀ {ps qs : List Predicate}, ReorderedAll ps qs → ReorderedAll (ps.flatMap f) (qs.flatMap f)
  | _, _, .nil => .nil
  | _, _, .cons hp h => (hf hp).append (h.flatMap hf)
  | _, _, .swap p q ps => by
    simp only [List.flatMap_cons]
    exact .of_perm (List.perm_append_comm_assoc _ _ _)
  | _, _, .trans h h' => (h.flatMap hf).trans (h'.flatMap hf)

/-! ### Composition -/

theorem unwrapped_of_length_ne_one {members : List Predicate} (h : members.length ≠ 1) :
    (group connective members).unwrapped = group connective members := by
  match members, h with
  | [], _ => rfl
  | [_], h => exact absurd rfl h
  | _ :: _ :: _, _ => rfl

/-- A group of one member is opened whatever the order in it. -/
theorem Reordered.unwrapped (h : p.Reordered q) : p.unwrapped.Reordered q.unwrapped := by
  fun_induction Predicate.unwrapped p generalizing q with
  | case1 connective p ih =>
    cases h with
    | group _ hmembers =>
      obtain ⟨p', rfl, hp⟩ := hmembers.of_singleton rfl
      exact ih (q := p') hp
  | case2 p hp =>
    cases h with
    | condition c => exact .condition c
    | related relation table connective hmembers =>
      exact .related relation table connective hmembers
    | @group connective members members' hmembers =>
      have hlength : members'.length ≠ 1 := fun h => by
        obtain ⟨p, rfl⟩ := List.length_eq_one_iff.mp (hmembers.length_eq.trans h)
        exact hp connective p rfl
      rw [unwrapped_of_length_ne_one hlength]
      exact .group connective hmembers

/-- **A predicate contributes the same to a group**, up to order. -/
theorem Reordered.contribution (connective : Connective) (h : p.Reordered q) :
    ReorderedAll (p.contribution connective) (q.contribution connective) := by
  have hunwrapped := h.unwrapped
  rw [Predicate.contribution, Predicate.contribution]
  generalize p.unwrapped = u at hunwrapped
  generalize q.unwrapped = v at hunwrapped
  cases hunwrapped with
  | condition c => exact .refl _
  | related relation table inner hmembers =>
    exact .cons (.related relation table inner hmembers) .nil
  | group inner hmembers =>
    show ReorderedAll (if _ then _ else _) (if _ then _ else _)
    rw [hmembers.isEmpty_eq]
    split
    next => exact .nil
    next =>
      split
      next => exact hmembers
      next => exact .cons (.group inner hmembers) .nil

end Predicate

/-! ### Groups -/

namespace Group

/-- The same group up to the order of members. -/
def Reordered (g g' : Group) : Prop :=
  g.connective = g'.connective ∧ Predicate.ReorderedAll g.members g'.members

variable {g g' : Group}

theorem Reordered.refl (g : Group) : g.Reordered g := ⟨rfl, .refl _⟩

theorem Reordered.toPredicate (h : g.Reordered g') : g.toPredicate.Reordered g'.toPredicate := by
  rw [Group.toPredicate, Group.toPredicate, h.1]
  exact .group _ h.2

theorem Reordered.related (relation : Relation) (targetTable : String) (h : g.Reordered g') :
    (Group.related relation targetTable g).Reordered (Group.related relation targetTable g') := by
  rw [Group.related, Group.related, h.1]
  exact .related relation targetTable _ h.2

/-- **Composition keeps to a change of order**: parts that differ in nothing but their
order and the order of their members make groups that differ in nothing else. -/
theorem reordered_of (connective : Connective) {parts parts' : List Predicate}
    (h : Predicate.ReorderedAll parts parts') :
    (Group.of connective parts).Reordered (Group.of connective parts') :=
  ⟨rfl, h.flatMap fun h => h.contribution connective⟩

end Group

/-! ### The predicate of an entity's own columns -/

section Build

variable {table : Table} {columns likeKeys : List String} {params params' : Bag}
  {mode : BuildMode}

theorem BuildMode.valueFor_of_perm (h : params.entries.Perm params'.entries) (column : String) :
    mode.valueFor params column = mode.valueFor params' column := by
  rw [valueFor, valueFor, Bag.get_congr (Bag.get?_of_perm h column), Bag.get?_of_perm h column,
    Bag.get_congr (Bag.get?_of_perm h mode.broadKey)]

/-- The columns are compared in the order of the parameters, unless a broad search has
all of them compared. -/
theorem partitionColumns_of_perm (columns likeKeys : List String)
    (h : params.entries.Perm params'.entries) (broad : Bool) :
    (partitionColumns columns likeKeys params broad).1.Perm
        (partitionColumns columns likeKeys params' broad).1 ∧
      (partitionColumns columns likeKeys params broad).2.Perm
        (partitionColumns columns likeKeys params' broad).2 := by
  rw [partitionColumns, partitionColumns]
  split
  · exact ⟨List.Perm.refl _, List.Perm.refl _⟩
  · have hrequested : (params.keys.filter columns.contains).Perm
        (params'.keys.filter columns.contains) := (h.map Prod.fst).filter _
    exact ⟨hrequested.filter _, hrequested.filter _⟩

/-- **The predicate of an entity's own columns follows the order of the parameters**,
and nothing but its order does. -/
theorem reordered_buildPredicate (h : params.entries.Perm params'.entries) :
    (buildPredicate table columns likeKeys params mode).Reordered
      (buildPredicate table columns likeKeys params' mode) := by
  cases hempty : params.isEmpty with
  | true =>
    have hempty' : params'.isEmpty = true := by rw [← Bag.isEmpty_of_perm h, hempty]
    rw [buildPredicate, buildPredicate, if_pos hempty, if_pos hempty']
    exact .refl _
  | false =>
    have hempty' : params'.isEmpty = false := by rw [← Bag.isEmpty_of_perm h, hempty]
    obtain ⟨hlike, hexact⟩ := partitionColumns_of_perm columns likeKeys h mode.broad
    rw [buildPredicate_eq hempty, buildPredicate_eq hempty', requestedLeaves, requestedLeaves]
    simp only [BuildMode.valueFor_of_perm h]
    refine Group.reordered_of .and (.cons ?_ (.cons ?_ .nil))
    · exact (Group.reordered_of mode.connective (.of_perm (hlike.flatMap_right _))).toPredicate
    · exact (Group.reordered_of mode.connective (.of_perm (hexact.flatMap_right _))).toPredicate

end Build

end RelationalSearch
