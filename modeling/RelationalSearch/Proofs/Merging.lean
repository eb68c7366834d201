import RelationalSearch.Proofs.NormalForm
import RelationalSearch.Proofs.Reordering
import RelationalSearch.Proofs.SingleRelation

/-!
# Composing step by step

A group that has been composed can be composed again, with further parts or with other
groups. What becomes of it then is decided once more: it is opened if it has one member,
dropped if it has none and merged if it has the connective of the new group. None of this
takes anything apart that the first composition has put together
(`RelationalSearch.Group.contribution_of`): a composed group with the same connective
contributes its members, and if it is opened, its only member is one that composition has
looked through already.

So composition takes appended lists to the composition of what they are composed to
(`RelationalSearch.Group.of_flatten`), and semi-joins that are joined to a group one after
the other are joined to it all at once (`RelationalSearch.Group.foldl_joinedBy`). A walk
joins the relations of an entity in this way
(`RelationalSearch.SearchContext.exists_joined_of_walk`), each by its own connective.
-/

namespace RelationalSearch

namespace Predicate

variable {connective : Connective} {p q : Predicate}

/-! ### What a part contributes -/

/-- A predicate that has been unwrapped is unwrapped. -/
theorem unwrapped_unwrapped (p : Predicate) : p.unwrapped.unwrapped = p.unwrapped := by
  fun_induction unwrapped p with
  | case1 c p ih => exact ih
  | case2 p hp =>
    cases p with
    | condition c => rfl
    | related relation table c members => rfl
    | group c members =>
      refine unwrapped_of_length_ne_one fun hlength => ?_
      obtain ⟨q, rfl⟩ := List.length_eq_one_iff.mp hlength
      exact hp c q rfl

/-- The groups of one member around a predicate do not matter to what it contributes. -/
theorem contribution_unwrapped (connective : Connective) (p : Predicate) :
    p.unwrapped.contribution connective = p.contribution connective := by
  rw [contribution, contribution, unwrapped_unwrapped]

/-- A predicate that contributes one member contributes itself, without the groups of one
member around it: a group that is merged has several members. -/
theorem unwrapped_of_contribution (h : p.contribution connective = [q]) : p.unwrapped = q := by
  rw [contribution] at h
  split at h
  next c members heq =>
    split at h
    next => cases h
    next =>
      split at h
      next =>
        subst h
        exact absurd rfl (length_ne_one_of_unwrapped heq)
      next => rw [heq, List.singleton_inj.mp h]
  next => exact List.singleton_inj.mp h

/-- **The only member that a part contributes contributes itself.** -/
theorem contribution_of_contribution (h : p.contribution connective = [q]) :
    q.contribution connective = [q] := by
  rw [← unwrapped_of_contribution h, contribution_unwrapped, h, unwrapped_of_contribution h]

/-- What several parts contribute is one member only if one of them contributes it. -/
theorem exists_contribution_of_flatMap {parts : List Predicate}
    (h : parts.flatMap (contribution connective) = [q]) :
    ∃ p ∈ parts, p.contribution connective = [q] := by
  induction parts with
  | nil => cases h
  | cons p rest ih =>
    rw [List.flatMap_cons] at h
    rcases List.append_eq_singleton_iff.mp h with ⟨-, hrest⟩ | ⟨hp, -⟩
    · obtain ⟨p', hp', hq⟩ := ih hrest
      exact ⟨p', List.mem_cons_of_mem p hp', hq⟩
    · exact ⟨p, List.mem_cons_self, hp⟩

end Predicate

/-! ### Composed groups as parts -/

namespace Group

variable (connective : Connective)

/-- **A composed group contributes its members** to a group with its connective. -/
theorem contribution_of (parts : List Predicate) :
    (Group.of connective parts).toPredicate.contribution connective =
      (Group.of connective parts).members := by
  by_cases hlength : (Group.of connective parts).members.length = 1
  · -- The group is opened; its member comes from a part that has been looked through.
    obtain ⟨q, hq⟩ := List.length_eq_one_iff.mp hlength
    obtain ⟨p, -, hp⟩ := Predicate.exists_contribution_of_flatMap hq
    have hopened : (Predicate.group connective [q]).contribution connective =
        q.contribution connective := rfl
    rw [toPredicate, hq]
    exact hopened.trans (Predicate.contribution_of_contribution hp)
  · rw [toPredicate, Predicate.contribution, Predicate.unwrapped_of_length_ne_one hlength]
    show (if (Group.of connective parts).members.isEmpty = true then [] else
      if connective = connective then _ else _) = _
    split
    next hempty => exact (List.isEmpty_iff.mp hempty).symm
    next => exact if_pos rfl

/-- **Composition takes appended lists to composed groups**, however many they are. -/
theorem of_flatten (lists : List (List Predicate)) :
    Group.of connective lists.flatten =
      Group.of connective (lists.map fun parts => (Group.of connective parts).toPredicate) := by
  refine congrArg (Group.mk connective) ?_
  rw [List.flatMap_map, List.flatMap_def, List.flatMap_def, List.map_flatten, List.flatten_flatten,
    List.map_map]
  exact congrArg List.flatten (List.map_congr_left fun parts _ =>
    (List.flatMap_def.symm.trans (contribution_of connective parts).symm))

/-- Further parts can be composed with a composed group or with its parts. -/
theorem of_cons_of (parts rest : List Predicate) :
    Group.of connective ((Group.of connective parts).toPredicate :: rest) =
      Group.of connective (parts ++ rest) := by
  refine congrArg (Group.mk connective) ?_
  rw [List.flatMap_cons, contribution_of, List.flatMap_append]
  rfl

/-! ### Semi-joins one after the other -/

/-- A group and a semi-join, composed. -/
def joinedBy (found : Group) (s : SemiJoin) : Group :=
  Group.of connective [found.toPredicate, s.toPredicate]

/-- Semi-joins that are joined to a composed group are further parts of it. -/
theorem foldl_joinedBy_of (parts : List Predicate) (joins : List SemiJoin) :
    joins.foldl (joinedBy connective) (Group.of connective parts) =
      Group.of connective (parts ++ joins.map SemiJoin.toPredicate) := by
  induction joins generalizing parts with
  | nil => rw [List.foldl_nil, List.map_nil, List.append_nil]
  | cons s rest ih =>
    rw [List.foldl_cons, joinedBy, of_cons_of, ih, List.append_assoc]
    rfl

/-- **Semi-joins that are joined one after the other are joined all at once.** -/
theorem foldl_joinedBy (found : Group) {joins : List SemiJoin} (h : joins ≠ []) :
    joins.foldl (joinedBy connective) found =
      Group.of connective (found.toPredicate :: joins.map SemiJoin.toPredicate) := by
  cases joins with
  | nil => exact absurd rfl h
  | cons s rest => exact foldl_joinedBy_of connective [found.toPredicate, s.toPredicate] rest

/-- Semi-joins stand side by side in a composed group, after what the first part
contributes. -/
theorem of_cons_joins (p : Predicate) (joins : List SemiJoin) :
    Group.of connective (p :: joins.map SemiJoin.toPredicate) =
      ⟨connective, p.contribution connective ++ joins.map SemiJoin.toPredicate⟩ := by
  refine congrArg (Group.mk connective) ?_
  have hjoin : ∀ s : SemiJoin, s.toPredicate.contribution connective = [s.toPredicate] :=
    fun _ => rfl
  rw [List.flatMap_cons, List.flatMap_map, funext hjoin]
  exact congrArg _ List.map_eq_flatMap.symm

end Group

/-! ### Walks -/

theorem exists_parts_of_buildPredicate (table : Table) (columns likeKeys : List String)
    (params : Bag) (mode : BuildMode) :
    ∃ parts, buildPredicate table columns likeKeys params mode = Group.of .and parts := by
  cases hempty : params.isEmpty with
  | true => exact ⟨[], by rw [buildPredicate, if_pos hempty]; rfl⟩
  | false => exact ⟨_, buildPredicate_eq hempty⟩

namespace SearchContext

variable (c : SearchContext) (e : Entity) (bag : Bag) (ignoreBroad : Bool)

/-- The connective by which a relation is joined to what a walk has found. -/
def connectiveOf (name : String) : Connective :=
  c.relationConnective e name (c.carriesBroad e ignoreBroad name)
    (c.reaching e bag ignoreBroad name)

/-- The semi-joins of relations, joined to a group one after the other, each by the
connective of its relation. -/
def joinedTo (found : Group) (joins : List (String × SemiJoin)) : Group :=
  joins.foldl (fun g j => g.joinedBy (c.connectiveOf e bag ignoreBroad j.1) j.2) found

variable {c e bag ignoreBroad} {left : Nat} {name : String} {visited : List String}

/-- Relations that have one connective are joined as if there were no other. -/
theorem joinedTo_of_connective {connective : Connective} {found : Group}
    {joins : List (String × SemiJoin)}
    (h : ∀ j ∈ joins, c.connectiveOf e bag ignoreBroad j.1 = connective) :
    c.joinedTo e bag ignoreBroad found joins =
      (joins.map Prod.snd).foldl (Group.joinedBy connective) found := by
  induction joins generalizing found with
  | nil => rfl
  | cons j rest ih =>
    obtain ⟨hj, hrest⟩ := List.forall_mem_cons.mp h
    rw [joinedTo, List.foldl_cons, hj, List.map_cons, List.foldl_cons]
    exact ih hrest

/-- **One step of a walk** joins the semi-join of its relation, or nothing. -/
theorem exists_joined_of_hop {found next : Walked}
    (h : c.hop left e bag ignoreBroad found name = .ok next) :
    ∃ added : Option SemiJoin, (∀ s, added = some s → c.IsFor e name s) ∧
      next.predicate =
        c.joinedTo e bag ignoreBroad found.predicate (added.toList.map (Prod.mk name)) := by
  obtain ⟨relation, target, hrelation, ⟨-, rfl⟩ | ⟨-, below, -, rfl⟩⟩ := of_hop h
  · exact ⟨none, fun s hs => absurd hs.symm (Option.some_ne_none s), rfl⟩
  · refine ⟨some ⟨[], relation, target.table, below.predicate⟩, ?_, rfl⟩
    rintro s ⟨⟩
    exact ⟨target, hrelation, rfl⟩

/-- **The loop over the relations of an entity** joins semi-joins in the order of the
relations. -/
theorem exists_joined_of_foldlM {names : List String} {found walked : Walked}
    (h : names.foldlM (c.hop left e bag ignoreBroad) found = .ok walked) :
    ∃ joins, c.Outermost e names joins ∧
      walked.predicate = c.joinedTo e bag ignoreBroad found.predicate joins := by
  induction names generalizing found with
  | nil =>
    cases h
    exact ⟨[], .nil, rfl⟩
  | cons name names ih =>
    rw [List.foldlM_cons] at h
    obtain ⟨next, hhop, h⟩ := exists_of_bind_ok h
    obtain ⟨added, hadded, hnext⟩ := exists_joined_of_hop hhop
    obtain ⟨joins, hjoins, hwalked⟩ := ih h
    refine ⟨_, hjoins.cons hadded, ?_⟩
    rw [hwalked, hnext, joinedTo, joinedTo, joinedTo, List.foldl_append]

/-- **A walk joins the semi-joins of an entity's relations to the predicate of its own
columns**, in their order and each by its connective. -/
theorem exists_joined_of_walk {walked : Walked}
    (h : (c.walk (left + 1) e bag ignoreBroad visited).value = .ok walked) :
    ∃ own parts joins, c.ownPredicate e bag ignoreBroad = .ok own ∧ own = Group.of .and parts ∧
      c.Outermost e e.spec.allowedRelations joins ∧
      walked.predicate = c.joinedTo e bag ignoreBroad own joins := by
  rw [walk_succ] at h
  obtain ⟨own, hown, h⟩ := exists_of_bind_ok h
  obtain ⟨table, -, hbuilt⟩ := exists_of_map_ok hown
  obtain ⟨parts, hparts⟩ := exists_parts_of_buildPredicate table _ _ _ _
  obtain ⟨joins, hjoins, hwalked⟩ := exists_joined_of_foldlM h
  exact ⟨own, parts, joins, hown, hbuilt.symm.trans hparts, hjoins, hwalked⟩

end SearchContext

/-! ### One by one and all at once -/

/-- **Composition is a homomorphism**: it takes two lists, one after the other, to the
composition of the two groups that they are composed to. So it does not matter whether
semi-joins are joined to a composed group one by one, or to any group if there are some, or
all are composed at once; in both cases they stand in their order after what was there. A
walk in which all relations that are entered have one connective has them so. -/
theorem Group.of_merges (connective : Connective) :
    (∀ xs ys : List Predicate, Group.of connective (xs ++ ys) =
      Group.of connective
        [(Group.of connective xs).toPredicate, (Group.of connective ys).toPredicate]) ∧
    (∀ (parts : List Predicate) (joins : List SemiJoin),
      joins.foldl (Group.joinedBy connective) (Group.of connective parts) =
          Group.of connective (parts ++ joins.map SemiJoin.toPredicate) ∧
        Group.of connective (parts ++ joins.map SemiJoin.toPredicate) =
          ⟨connective, (Group.of connective parts).members ++ joins.map SemiJoin.toPredicate⟩) ∧
    (∀ (found : Group) (joins : List SemiJoin), joins ≠ [] →
      joins.foldl (Group.joinedBy connective) found =
          Group.of connective (found.toPredicate :: joins.map SemiJoin.toPredicate) ∧
        Group.of connective (found.toPredicate :: joins.map SemiJoin.toPredicate) =
          ⟨connective, found.toPredicate.contribution connective ++
            joins.map SemiJoin.toPredicate⟩) ∧
    ∀ (c : SearchContext) (left : Nat) (e : Entity) (bag : Bag) (ignoreBroad : Bool)
      (visited : List String) (walked : Walked),
      (c.walk (left + 1) e bag ignoreBroad visited).value = .ok walked →
      ∃ own joins, c.ownPredicate e bag ignoreBroad = .ok own ∧
        c.Outermost e e.spec.allowedRelations joins ∧
        walked.predicate = c.joinedTo e bag ignoreBroad own joins ∧
        ((∀ j ∈ joins, c.connectiveOf e bag ignoreBroad j.1 = connective) →
          joins ≠ [] ∨ connective = .and →
          walked.predicate = Group.of connective
              (own.toPredicate :: joins.map fun j => j.2.toPredicate) ∧
            walked.predicate = ⟨connective, own.toPredicate.contribution connective ++
              joins.map fun j => j.2.toPredicate⟩) := by
  refine ⟨fun xs ys => ?_, fun parts joins => ?_, fun found joins hjoins => ?_, ?_⟩
  · have hboth := Group.of_flatten connective [xs, ys]
    rwa [List.flatten_cons, List.flatten_singleton] at hboth
  · refine ⟨Group.foldl_joinedBy_of connective parts joins, ?_⟩
    rw [← Group.of_cons_of, Group.of_cons_joins, Group.contribution_of]
  · exact ⟨Group.foldl_joinedBy connective found hjoins, Group.of_cons_joins connective _ joins⟩
  · intro c left e bag ignoreBroad visited walked h
    obtain ⟨own, parts, joins, hown, hparts, houter, hwalked⟩ :=
      SearchContext.exists_joined_of_walk h
    refine ⟨own, joins, hown, houter, hwalked, fun hconnective hsome => ?_⟩
    have hatOnce : walked.predicate = Group.of connective
        (own.toPredicate :: (joins.map Prod.snd).map SemiJoin.toPredicate) := by
      rw [hwalked, SearchContext.joinedTo_of_connective hconnective]
      rcases hsome with hsome | rfl
      · exact Group.foldl_joinedBy connective own fun hnil => hsome (List.map_eq_nil_iff.mp hnil)
      · rw [hparts, Group.foldl_joinedBy_of, Group.of_cons_of]
    have hmembers := hatOnce.trans (Group.of_cons_joins connective own.toPredicate _)
    rw [List.map_map] at hatOnce hmembers
    exact ⟨hatOnce, hmembers⟩

namespace Pond

/-- A pond that is kept for one species. -/
def reserved : Entity :=
  ⟨"Pond", "ponds", ⟨[], ["name"], ["fish", "species"], [], none, none, false⟩,
    [("fish", ⟨"fish", "Fish", "id", "pond_id", none⟩),
      ("species", ⟨"species", "Species", "species_id", "id", none⟩)]⟩

def reservedContext : SearchContext :=
  Compiler.context ⟨⟨[reserved, fish, species]⟩, "main", Settings.usual, "q"⟩ SearchOptions.plain
    [] catalog

/-- Parameters for the pond and for both of its relations. -/
def reservedBag : Bag :=
  Bag.ofEntries [("depth", .int 3), ("fish_name", .str "koi"), ("species_label", .str "carp")]

end Pond

/-- A walk that joins two relations to a comparison of the pond's own. -/
theorem Group.of_merges_pond :
    ∃ walked own, ∃ joins : List (String × SemiJoin),
      (Pond.reservedContext.walk 3 Pond.reserved Pond.reservedBag false []).value = .ok walked ∧
      Pond.reservedContext.ownPredicate Pond.reserved Pond.reservedBag false = .ok own ∧
      walked.predicate = ⟨.and, own.toPredicate.contribution .and ++
        joins.map fun j => j.2.toPredicate⟩ ∧
      walked.predicate.members.length = 3 := by
  obtain ⟨walked, hwalked, hlength⟩ := exists_of_map_ok
    (x := (Pond.reservedContext.walk 3 Pond.reserved Pond.reservedBag false []).value)
    (f := fun w => w.predicate.members.length) (b := 3) (by decide +kernel)
  obtain ⟨own, joins, hown, houter, -, hmerged⟩ :=
    (Group.of_merges .and).2.2.2 Pond.reservedContext 2 Pond.reserved Pond.reservedBag false []
      walked hwalked
  have hconnective : ∀ name ∈ Pond.reserved.spec.allowedRelations,
      Pond.reservedContext.connectiveOf Pond.reserved Pond.reservedBag false name = .and := by
    decide +kernel
  refine ⟨walked, own, joins, hwalked, hown, ?_, hlength⟩
  exact (hmerged (fun j hj => hconnective j.1 (houter.sublist.subset (List.mem_map_of_mem hj)))
    (Or.inr rfl)).2

end RelationalSearch
