import Mathlib.Data.List.Infix
import RelationalSearch.Predicate.Build

/-!
# What a composed predicate holds

`RelationalSearch.Group.of` drops groups that ask for nothing, opens groups of one
member and merges groups with its own connective. None of this changes what stands
in the tree: whatever is collected from a predicate by going through the members
of its groups is collected from the composed group as from its parts, in the same
order (`RelationalSearch.Group.flatMap_of`).

Three such collections are used. `RelationalSearch.Predicate.located` gives the
comparisons of a predicate, each with the relations of the semi-joins around it,
`RelationalSearch.Predicate.joins` the entities that its semi-joins lead to, and
`RelationalSearch.Predicate.semiJoins` the semi-joins themselves, with the relations
of those around them.
-/

namespace RelationalSearch

/-- A semi-join where it stands in a predicate. -/
structure SemiJoin where
  /-- The relations of the semi-joins around it, from the outside inwards. -/
  around : List Relation
  relation : Relation
  targetTable : String
  group : Group
  deriving Repr, Inhabited

/-- A semi-join with a further one around all those around it. -/
def SemiJoin.inside (relation : Relation) (s : SemiJoin) : SemiJoin :=
  { s with around := relation :: s.around }

namespace Predicate

/-! ### Three collections -/

mutual

/-- The comparisons of a predicate, each with the relations of the semi-joins
around it, from the outside inwards. -/
def located : Predicate → List (List Relation × Condition)
  | condition c => [([], c)]
  | group _ members => locatedIn members
  | related relation _ _ members => (locatedIn members).map fun l => (relation :: l.1, l.2)

/-- The comparisons of several predicates. -/
def locatedIn : List Predicate → List (List Relation × Condition)
  | [] => []
  | p :: rest => located p ++ locatedIn rest

end

mutual

/-- The names of the entities that semi-joins lead to, at every depth. -/
def joins : Predicate → List String
  | condition _ => []
  | group _ members => joinsIn members
  | related relation _ _ members => relation.target :: joinsIn members

/-- The names of the entities that semi-joins in several predicates lead to. -/
def joinsIn : List Predicate → List String
  | [] => []
  | p :: rest => joins p ++ joinsIn rest

end

mutual

/-- The semi-joins of a predicate, at every depth, each before those inside it. -/
def semiJoins : Predicate → List SemiJoin
  | condition _ => []
  | group _ members => semiJoinsIn members
  | related relation targetTable connective members =>
    ⟨[], relation, targetTable, ⟨connective, members⟩⟩ ::
      (semiJoinsIn members).map (SemiJoin.inside relation)

/-- The semi-joins of several predicates. -/
def semiJoinsIn : List Predicate → List SemiJoin
  | [] => []
  | p :: rest => semiJoins p ++ semiJoinsIn rest

end

theorem locatedIn_eq_flatMap (ps : List Predicate) : locatedIn ps = ps.flatMap located := by
  induction ps with
  | nil => rfl
  | cons p ps ih => rw [locatedIn, ih, List.flatMap_cons]

theorem joinsIn_eq_flatMap (ps : List Predicate) : joinsIn ps = ps.flatMap joins := by
  induction ps with
  | nil => rfl
  | cons p ps ih => rw [joinsIn, ih, List.flatMap_cons]

theorem semiJoinsIn_eq_flatMap (ps : List Predicate) : semiJoinsIn ps = ps.flatMap semiJoins := by
  induction ps with
  | nil => rfl
  | cons p ps ih => rw [semiJoinsIn, ih, List.flatMap_cons]

mutual

/-- The entities that semi-joins lead to are the targets of their relations. -/
theorem joins_eq_map_semiJoins :
    ∀ p : Predicate, p.joins = p.semiJoins.map fun s => s.relation.target
  | condition _ => rfl
  | group _ members => joinsIn_eq_map_semiJoinsIn members
  | related relation _ _ members => by
    rw [joins, semiJoins, joinsIn_eq_map_semiJoinsIn members, List.map_cons, List.map_map]
    rfl

/-- So it is with several predicates. -/
theorem joinsIn_eq_map_semiJoinsIn :
    ∀ ps : List Predicate, joinsIn ps = (semiJoinsIn ps).map fun s => s.relation.target
  | [] => rfl
  | p :: ps => by
    rw [joinsIn, semiJoinsIn, joins_eq_map_semiJoins p, joinsIn_eq_map_semiJoinsIn ps,
      List.map_append]

end

theorem mem_locatedIn {ps : List Predicate} {l : List Relation × Condition} :
    l ∈ locatedIn ps ↔ ∃ p ∈ ps, l ∈ p.located := by
  rw [locatedIn_eq_flatMap, List.mem_flatMap]

mutual

/-- Without a semi-join in it, a predicate has no comparison inside a semi-join. -/
theorem path_eq_nil_of_joins_eq_nil {l : List Relation × Condition} :
    ∀ p : Predicate, p.joins = [] → l ∈ p.located → l.1 = []
  | condition _, _, hl => by rw [List.mem_singleton.mp hl]
  | group _ members, hjoins, hl => path_eq_nil_of_joinsIn_eq_nil members hjoins hl
  | related .., hjoins, _ => absurd hjoins (List.cons_ne_nil _ _)

/-- So it is with several predicates. -/
theorem path_eq_nil_of_joinsIn_eq_nil {l : List Relation × Condition} :
    ∀ ps : List Predicate, joinsIn ps = [] → l ∈ locatedIn ps → l.1 = []
  | [], _, hl => absurd hl List.not_mem_nil
  | p :: ps, hjoins, hl => by
    obtain ⟨hp, hps⟩ := List.append_eq_nil_iff.mp hjoins
    rcases List.mem_append.mp hl with hl | hl
    · exact path_eq_nil_of_joins_eq_nil p hp hl
    · exact path_eq_nil_of_joinsIn_eq_nil ps hps hl

end

mutual

/-- The comparisons inside a semi-join are comparisons of the predicate, with the
relation of the semi-join among those around them. -/
theorem mem_located_of_mem_semiJoins {s : SemiJoin} {l : List Relation × Condition}
    (hl : l ∈ locatedIn s.group.members) :
    ∀ p : Predicate, s ∈ p.semiJoins → (s.around ++ s.relation :: l.1, l.2) ∈ p.located
  | condition _, hs => absurd hs List.not_mem_nil
  | group _ members, hs => mem_locatedIn_of_mem_semiJoinsIn hl members hs
  | related relation _ _ members, hs => by
    refine List.mem_map.mpr ?_
    rcases List.mem_cons.mp hs with rfl | hs
    · exact ⟨l, hl, rfl⟩
    · obtain ⟨s', hs', rfl⟩ := List.mem_map.mp hs
      exact ⟨_, mem_locatedIn_of_mem_semiJoinsIn (s := s') hl members hs', rfl⟩

/-- So it is with several predicates. -/
theorem mem_locatedIn_of_mem_semiJoinsIn {s : SemiJoin} {l : List Relation × Condition}
    (hl : l ∈ locatedIn s.group.members) :
    ∀ ps : List Predicate, s ∈ semiJoinsIn ps →
      (s.around ++ s.relation :: l.1, l.2) ∈ locatedIn ps
  | [], hs => absurd hs List.not_mem_nil
  | p :: ps, hs => by
    rcases List.mem_append.mp hs with hs | hs
    · exact List.mem_append_left _ (mem_located_of_mem_semiJoins hl p hs)
    · exact List.mem_append_right _ (mem_locatedIn_of_mem_semiJoinsIn hl ps hs)

end

/-- Where a predicate compares nothing, no semi-join in it does. -/
theorem locatedIn_eq_nil_of_mem {s : SemiJoin} {ps : List Predicate} (h : locatedIn ps = [])
    (hs : s ∈ semiJoinsIn ps) : locatedIn s.group.members = [] := by
  refine List.eq_nil_iff_forall_not_mem.mpr fun l hl => ?_
  have hmem := mem_locatedIn_of_mem_semiJoinsIn hl ps hs
  rw [h] at hmem
  exact List.not_mem_nil hmem

mutual

/-- **A semi-join that compares nothing** is or has inside it one that holds nothing at
all, neither a comparison nor a semi-join. -/
theorem exists_innermost {s : SemiJoin} (hnothing : locatedIn s.group.members = []) :
    ∀ p : Predicate, s ∈ p.semiJoins → ∃ s' ∈ p.semiJoins,
      s.around ++ [s.relation] <+: s'.around ++ [s'.relation] ∧
        locatedIn s'.group.members = [] ∧ semiJoinsIn s'.group.members = []
  | condition _, hs => absurd hs List.not_mem_nil
  | group _ members, hs => exists_innermostIn hnothing members hs
  | related relation table connective members, hs => by
    have hinside : ∀ s' ∈ semiJoinsIn members,
        s'.inside relation ∈ (related relation table connective members).semiJoins := fun s' hs' =>
      List.mem_cons_of_mem _ (List.mem_map_of_mem hs')
    rcases List.mem_cons.mp hs with rfl | hs
    · rcases hmembers : semiJoinsIn members with _ | ⟨s₁, rest⟩
      · exact ⟨_, List.mem_cons_self, List.prefix_refl _, hnothing, hmembers⟩
      · have hs₁ : s₁ ∈ semiJoinsIn members := by rw [hmembers]; exact List.mem_cons_self
        obtain ⟨s', hs', -, hcompared, hjoined⟩ :=
          exists_innermostIn (locatedIn_eq_nil_of_mem hnothing hs₁) members hs₁
        exact ⟨s'.inside relation, hinside s' hs', ⟨_, rfl⟩, hcompared, hjoined⟩
    · obtain ⟨s₁, hs₁, rfl⟩ := List.mem_map.mp hs
      obtain ⟨s', hs', ⟨rest, hrest⟩, hcompared, hjoined⟩ :=
        exists_innermostIn (s := s₁) hnothing members hs₁
      exact ⟨s'.inside relation, hinside s' hs', ⟨rest, congrArg (relation :: ·) hrest⟩, hcompared,
        hjoined⟩

/-- So it is with several predicates. -/
theorem exists_innermostIn {s : SemiJoin} (hnothing : locatedIn s.group.members = []) :
    ∀ ps : List Predicate, s ∈ semiJoinsIn ps → ∃ s' ∈ semiJoinsIn ps,
      s.around ++ [s.relation] <+: s'.around ++ [s'.relation] ∧
        locatedIn s'.group.members = [] ∧ semiJoinsIn s'.group.members = []
  | [], hs => absurd hs List.not_mem_nil
  | p :: ps, hs => by
    rcases List.mem_append.mp hs with hs | hs
    · obtain ⟨s', hs', h⟩ := exists_innermost hnothing p hs
      exact ⟨s', List.mem_append_left _ hs', h⟩
    · obtain ⟨s', hs', h⟩ := exists_innermostIn hnothing ps hs
      exact ⟨s', List.mem_append_right _ hs', h⟩

end

theorem joinsIn_eq_nil {ps : List Predicate} (h : ∀ p ∈ ps, p.joins = []) : joinsIn ps = [] := by
  rw [joinsIn_eq_flatMap]
  exact List.flatMap_eq_nil_iff.mpr h

/-! ### Composition loses nothing -/

section Collection

variable {β : Type} {f : Predicate → List β}

theorem collect_unwrapped (hf : ∀ c ms, f (group c ms) = ms.flatMap f) (p : Predicate) :
    f p.unwrapped = f p := by
  fun_induction unwrapped p with
  | case1 c p ih => rw [ih, hf, List.flatMap_singleton]
  | case2 => rfl

/-- A predicate contributes to a group what is in it. -/
theorem collect_contribution (hf : ∀ c ms, f (group c ms) = ms.flatMap f)
    (connective : Connective) (p : Predicate) : (p.contribution connective).flatMap f = f p := by
  have h := collect_unwrapped hf p
  -- The part is dropped, opened or kept; unwrapping it first changes nothing.
  rw [contribution]
  split
  next c members heq =>
    rw [heq, hf] at h
    split
    next hempty => rw [← h, List.isEmpty_iff.mp hempty]
    next =>
      split
      · exact h
      · rw [List.flatMap_singleton, hf, h]
  next => rw [List.flatMap_singleton, h]

end Collection

end Predicate

namespace Group

/-- **Composition loses nothing**: what is collected from a composed group is what
is collected from its parts, in their order. -/
theorem flatMap_of {β : Type} {f : Predicate → List β}
    (hf : ∀ c ms, f (.group c ms) = ms.flatMap f) (connective : Connective)
    (parts : List Predicate) : (Group.of connective parts).members.flatMap f = parts.flatMap f := by
  rw [Group.of, List.flatMap_assoc]
  exact congrArg (fun g => parts.flatMap g) (funext (Predicate.collect_contribution hf connective))

/-- The comparisons of a group, each with the relations of the semi-joins around
it. -/
def located (g : Group) : List (List Relation × Condition) := Predicate.locatedIn g.members

/-- The names of the entities that the semi-joins of a group lead to. -/
def joins (g : Group) : List String := Predicate.joinsIn g.members

/-- The semi-joins of a group, at every depth. -/
def semiJoins (g : Group) : List SemiJoin := Predicate.semiJoinsIn g.members

@[simp] theorem located_empty : Group.empty.located = [] := rfl

@[simp] theorem located_toPredicate (g : Group) : g.toPredicate.located = g.located := rfl

@[simp] theorem joins_toPredicate (g : Group) : g.toPredicate.joins = g.joins := rfl

@[simp] theorem semiJoins_toPredicate (g : Group) : g.toPredicate.semiJoins = g.semiJoins := rfl

theorem located_related (relation : Relation) (targetTable : String) (g : Group) :
    (related relation targetTable g).located =
      g.located.map fun l => (relation :: l.1, l.2) := rfl

theorem joins_related (relation : Relation) (targetTable : String) (g : Group) :
    (related relation targetTable g).joins = relation.target :: g.joins := rfl

theorem semiJoins_related (relation : Relation) (targetTable : String) (g : Group) :
    (related relation targetTable g).semiJoins =
      ⟨[], relation, targetTable, g⟩ :: g.semiJoins.map (SemiJoin.inside relation) := rfl

/-- Without a semi-join there is nowhere that one leads to, and the other way round. -/
theorem semiJoins_eq_nil_iff {g : Group} : g.semiJoins = [] ↔ g.joins = [] := by
  rw [joins, Predicate.joinsIn_eq_map_semiJoinsIn, List.map_eq_nil_iff]
  rfl

theorem located_of (connective : Connective) (parts : List Predicate) :
    (Group.of connective parts).located = Predicate.locatedIn parts := by
  rw [located, Predicate.locatedIn_eq_flatMap, Predicate.locatedIn_eq_flatMap]
  exact flatMap_of (fun _ ms => Predicate.locatedIn_eq_flatMap ms) connective parts

theorem joins_of (connective : Connective) (parts : List Predicate) :
    (Group.of connective parts).joins = Predicate.joinsIn parts := by
  rw [joins, Predicate.joinsIn_eq_flatMap, Predicate.joinsIn_eq_flatMap]
  exact flatMap_of (fun _ ms => Predicate.joinsIn_eq_flatMap ms) connective parts

theorem semiJoins_of (connective : Connective) (parts : List Predicate) :
    (Group.of connective parts).semiJoins = Predicate.semiJoinsIn parts := by
  rw [semiJoins, Predicate.semiJoinsIn_eq_flatMap, Predicate.semiJoinsIn_eq_flatMap]
  exact flatMap_of (fun _ ms => Predicate.semiJoinsIn_eq_flatMap ms) connective parts

end Group

end RelationalSearch
