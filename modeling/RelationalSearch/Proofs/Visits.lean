import RelationalSearch.Proofs.Searches
import RelationalSearch.Proofs.Span

/-!
# Visits and semi-joins

A search says which entities it has visited, and this is bookkeeping apart from its
predicate: a visit is noted when the predicate of an entity is made, and the semi-join
around that predicate is attached afterwards, by a composition that opens, merges and
drops groups. Here the two are brought together. What a walk has visited is what it was
given, its entity, and the targets of the semi-joins that it has made
(`RelationalSearch.SearchContext.visits_walk`); so neither is an entity noted that was
only looked into, nor is a semi-join lost on the way up.

The list itself is in strictly ascending order
(`RelationalSearch.pairwise_sortedNames`).
-/

namespace RelationalSearch

/-- Names come in ascending order, each once. -/
theorem pairwise_sortedNames (names : List String) : (sortedNames names).Pairwise (· < ·) := by
  have hsorted : (sortedNames names).Pairwise fun a b => decide (a ≤ b) = true := by
    refine List.pairwise_mergeSort (fun a b c hab hbc => ?_) (fun a b => ?_) _
    · exact decide_eq_true (String.le_trans (of_decide_eq_true hab) (of_decide_eq_true hbc))
    · rw [Bool.or_eq_true, decide_eq_true_eq, decide_eq_true_eq]
      exact String.le_total a b
  refine (hsorted.and (nodup_sortedNames names)).imp fun ⟨hle, hne⟩ => ?_
  exact Std.lt_of_le_of_ne (of_decide_eq_true hle) hne

namespace SearchContext

variable {c : SearchContext} {e : Entity} {bag : Bag} {ignoreBroad : Bool}
  {visited : List String}

/-- **The visits of a walk**: those it was given, its entity, and the targets of its
semi-joins. -/
structure Accounts (e : Entity) (visited : List String) (found : Walked) : Prop where
  mem_visited : ∀ x, x ∈ found.visited ↔ x ∈ visited ∨ x = e.name ∨ x ∈ found.predicate.joins

/-- The columns of an entity account for the visit of the entity alone. -/
theorem accounts_own {own : Group} (h : c.ownPredicate e bag ignoreBroad = .ok own) :
    Accounts e visited ⟨own, noteVisit visited e.name⟩ := by
  have hjoins : own.joins = [] := Group.semiJoins_eq_nil_iff.mp (semiJoins_ownPredicate h)
  refine ⟨fun x => ?_⟩
  rw [mem_noteVisit, hjoins, or_comm, or_iff_left List.not_mem_nil]

/-- **With a relation more**, the target of its semi-join is accounted for, and so is all
that was visited below it. -/
theorem Accounts.joined {target : Entity} {name : String} {relation : Relation}
    {found below : Walked} (hfound : Accounts e visited found)
    (hbelow : Accounts target found.visited below)
    (hrelation : c.registry.relation e name = .ok (relation, target)) :
    Accounts e visited (c.joined e bag ignoreBroad name relation target found below) := by
  refine ⟨fun x => ?_⟩
  rw [joins_joined, Registry.target_of_relation hrelation, List.mem_append, List.mem_cons]
  exact (hbelow.mem_visited x).trans (by rw [hfound.mem_visited]; tauto)

/-- **Every walk accounts for its visits.** -/
theorem visits_walk (left : Nat) (e : Entity) (bag : Bag) (ignoreBroad : Bool)
    (visited : List String) :
    Ends (Accounts e visited) (fun _ => True) (c.walk left e bag ignoreBroad visited).value := by
  induction left generalizing e bag ignoreBroad visited with
  | zero => exact .failure trivial
  | succ left ih =>
    refine ends_walk (fun _ found => Accounts e visited found) (fun _ _ => trivial)
      (fun own hown => accounts_own hown) fun done name found _ hfound => ?_
    refine ends_hop (fun _ _ => trivial) (fun _ _ _ _ _ => trivial) (fun _ _ _ _ => hfound)
      fun relation target hrelation _ => ?_
    exact (ih target _ _ found.visited).mono
      (fun below hbelow => hfound.joined hbelow hrelation) fun _ h => h

end SearchContext

namespace Compiler

variable {c : Compiler} {catalog : Catalog}

/-- A search by one relation has joined its target, or nothing. -/
theorem joins_related_joined {relation : Relation} {table : String} {below : Group} :
    (Group.of .and [Group.related relation table below]).joins =
      relation.target :: below.joins := by
  rw [Group.joins_of, Predicate.joinsIn, Predicate.joinsIn, List.append_nil, Group.joins_related]

/-- **The visited entities are the entity of the search and the targets of its
semi-joins**, in whatever way the search is made; they come in strictly ascending order.
So an entity that was only looked into is not among them, and no semi-join is lost. -/
theorem Makes.visits {result : CompiledSearch} (h : c.Makes catalog result) :
    result.visited.Pairwise (· < ·) ∧
      ∀ x, x ∈ result.visited ↔ x = result.entity ∨ x ∈ result.predicate.joins := by
  cases h with
  | compiled h =>
    obtain ⟨request, walked, table, range, -, hwalked, -, -, rfl⟩ := parts_of_compile h
    have haccounts := (SearchContext.visits_walk _ _ _ _ _).of_ok hwalked
    refine ⟨pairwise_sortedNames _, fun x => ?_⟩
    exact mem_sortedNames.trans ((haccounts.mem_visited x).trans (or_iff_right List.not_mem_nil))
  | byRelation h =>
    obtain ⟨request, hrequest, hdone⟩ := parts_of_compileRelation h
    obtain ⟨-, hrelation, -⟩ := parts_of_prepareRelation hrequest
    rcases hdone with ⟨-, rfl⟩ | ⟨-, walked, hwalked, rfl⟩
    · refine ⟨pairwise_sortedNames _, fun x => mem_sortedNames.trans ?_⟩
      exact List.mem_singleton.trans (or_iff_left List.not_mem_nil).symm
    · have haccounts := (SearchContext.visits_walk _ _ _ _ _).of_ok hwalked
      refine ⟨pairwise_sortedNames _, fun x => mem_sortedNames.trans ?_⟩
      rw [haccounts.mem_visited, List.mem_singleton]
      show _ ↔ x = request.source.name ∨ x ∈ (Group.of .and _).joins
      rw [joins_related_joined, List.mem_cons, Registry.target_of_relation hrelation]
  | byColumns h =>
    obtain ⟨e, target, declared, table, keys, bag, params, mode, -, hrelation, -, -, -, -, -, -,
      hname, -, hvisited, hpredicate⟩ := of_ofRelation h
    rw [hvisited, hname, hpredicate]
    refine ⟨pairwise_sortedNames _, fun x => mem_sortedNames.trans ?_⟩
    rw [joins_related_joined, joins_buildPredicate, Registry.target_of_relation hrelation,
      List.mem_cons]

/-- A broad search that goes round the circle of a pond. -/
theorem Makes.visits_pond :
    ∃ result, Pond.compiler.Makes Pond.catalog result ∧ result.visited.Pairwise (· < ·) ∧
      ∀ x, x ∈ result.visited ↔ x = result.entity ∨ x ∈ result.predicate.joins := by
  obtain ⟨result, h⟩ := exists_of_toBool (x := Pond.compiler.compile Pond.catalog "Pond"
    (.value (.map [(.str "q", .str "koi")])) Pond.following Pond.clock) (by decide +kernel)
  exact ⟨result, .compiled h, Makes.visits (.compiled h)⟩

end Compiler

end RelationalSearch
