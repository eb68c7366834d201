import RelationalSearch.Proofs.Searches
import RelationalSearch.Proofs.Staying

/-!
# One relation, searched in two ways

An entity can be searched with all its relations or by one of them alone. The two ways
come to the walk of the relation's target from different sides: the one has made the
predicate of the entity first, has perhaps been in other relations, and has looked ahead;
the other knows of nothing but the visit of the entity. When the broad-search parameter is
overlooked none of this matters, because a walk then depends neither on visits nor on the
relations of a broad search (`RelationalSearch.SearchContext.walk_unaffected`), and the
share of the relation is the same.

So whatever semi-join a search over the entity makes for a relation
(`RelationalSearch.SearchContext.MadeFor`) is the one that a search by this relation makes.
-/

namespace RelationalSearch

/-- A semi-join as a predicate, whatever stands around it. -/
def SemiJoin.toPredicate (s : SemiJoin) : Predicate :=
  Group.related s.relation s.targetTable s.group

/-- No other relation of an entity is declared like this one. -/
def Registry.DeclaredOnce (r : Registry) (e : Entity) (name : String) : Prop :=
  ∀ other declared target target', r.relation e name = .ok (declared, target) →
    r.relation e other = .ok (declared, target') → other = name

namespace SearchContext

variable {c : SearchContext} {e : Entity} {bag : Bag} {name : String} {left : Nat}

/-- **What the semi-join of a relation is made of**: its share of the parameters is not
empty, and its group is what a walk from the target finds with this share. -/
def MadeFor (c : SearchContext) (left : Nat) (e : Entity) (bag : Bag) (name : String)
    (s : SemiJoin) : Prop :=
  ∃ relation target visited below, c.registry.relation e name = .ok (relation, target) ∧
    (c.relationParameters bag name true).isEmpty = false ∧
    (c.walk left target (c.relationParameters bag name true) true visited).value = .ok below ∧
    s = ⟨[], relation, target.table, below.predicate⟩

theorem MadeFor.isFor {s : SemiJoin} (h : c.MadeFor left e bag name s) : c.IsFor e name s := by
  obtain ⟨relation, target, visited, below, hrelation, -, -, rfl⟩ := h
  exact ⟨target, hrelation, rfl⟩

/-- **The semi-join of a relation is determined by the parameters**: two of them are the
same, even if the surroundings differ in the relations of a broad search. -/
theorem MadeFor.eq (follow : Bool) (requested : List String) {s s' : SemiJoin}
    (h : c.MadeFor left e bag name s)
    (h' : (c.spreading follow requested).MadeFor left e bag name s') : s = s' := by
  obtain ⟨relation, target, visited, below, hrelation, -, hbelow, rfl⟩ := h
  obtain ⟨relation', target', visited', below', hrelation', -, hbelow', rfl⟩ := h'
  cases hrelation.symm.trans hrelation'
  rw [(walk_unaffected (c := c) hbelow hbelow').1]

/-- One step adds the semi-join of its relation, or none. -/
theorem madeFor_of_hop {found next : Walked} (h : c.hop left e bag true found name = .ok next) :
    ∃ added : Option SemiJoin,
      next.predicate.outerJoins = found.predicate.outerJoins ++ added.toList ∧
        ∀ s, added = some s → c.MadeFor left e bag name s := by
  obtain ⟨relation, target, hrelation, ⟨-, rfl⟩ | ⟨henters, below, hbelow, rfl⟩⟩ := of_hop h
  · exact ⟨none, (List.append_nil _).symm, fun s h => absurd h.symm (Option.some_ne_none s)⟩
  · refine ⟨some ⟨[], relation, target.table, below.predicate⟩, outerJoins_joined, ?_⟩
    rintro s ⟨⟩
    exact ⟨relation, target, found.visited, below, hrelation, (of_entersRelation henters).1, hbelow,
      rfl⟩

/-- **The loop over the relations of an entity** adds semi-joins that are made for them,
in their order. -/
theorem outermost_of_foldlM {names : List String} {found walked : Walked}
    (h : names.foldlM (c.hop left e bag true) found = .ok walked) :
    ∃ joins, c.Outermost e names joins ∧
      walked.predicate.outerJoins = found.predicate.outerJoins ++ joins.map Prod.snd ∧
      ∀ j ∈ joins, c.MadeFor left e bag j.1 j.2 := by
  induction names generalizing found with
  | nil =>
    cases h
    exact ⟨[], .nil, (List.append_nil _).symm, fun j hj => absurd hj List.not_mem_nil⟩
  | cons name names ih =>
    rw [List.foldlM_cons] at h
    obtain ⟨next, hhop, h⟩ := exists_of_bind_ok h
    obtain ⟨joins, hjoins, houter, hmade⟩ := ih h
    obtain ⟨added, hadded, hmade'⟩ := madeFor_of_hop hhop
    refine ⟨_, hjoins.cons fun s hs => (hmade' s hs).isFor, ?_, fun j hj => ?_⟩
    · have hsnd : (added.toList.map (Prod.mk name)).map Prod.snd = added.toList := by
        rw [List.map_map]
        exact List.map_id _
      rw [houter, hadded, List.map_append, hsnd, List.append_assoc]
    · rcases List.mem_append.mp hj with hj | hj
      · obtain ⟨s, hs, rfl⟩ := List.mem_map.mp hj
        exact hmade' s (Option.mem_toList.mp hs)
      · exact hmade j hj

end SearchContext

namespace Compiler

variable {c : Compiler} {catalog : Catalog}

/-- **A search by one relation is the semi-join made for it**, or asks for nothing when
the relation's share of the parameters is empty. -/
theorem madeFor_of_compileRelation {entity relation : String} {source : Source} {e : Entity}
    {bag : Bag} {options : SearchOptions} {result : CompiledSearch}
    (hentity : c.registry.get entity = .ok e) (hbag : source.toBag = .ok bag)
    (hignore : options.ignoreBroad = true)
    (h : c.compileRelation catalog entity relation source none options = .ok result) :
    ((c.scopedTo [] (scopeKey relation) true bag).isEmpty = true ∧
        result.predicate = Group.empty) ∨
      ∃ requested s, (c.context { options with followRelations := false } requested
          catalog).MadeFor c.settings.maxDepth e bag relation s ∧
        result.predicate = ⟨.and, [s.toPredicate]⟩ := by
  obtain ⟨request, hrequest, hdone⟩ := parts_of_compileRelation h
  obtain ⟨hsource, hrelation, bag', hbag', hscoped⟩ := parts_of_prepareRelation hrequest
  cases hentity.symm.trans hsource
  cases hbag.symm.trans hbag'
  rw [hignore] at hscoped
  rcases hdone with ⟨hempty, rfl⟩ | ⟨hempty, walked, hwalked, rfl⟩
  · rw [hscoped] at hempty
    exact Or.inl ⟨hempty, rfl⟩
  · rw [relationWalk, hignore, hscoped] at hwalked
    rw [hscoped] at hempty
    exact Or.inr ⟨request.requested, _, ⟨_, _, _, walked, hrelation, hempty, hwalked, rfl⟩, rfl⟩

/-- **A search over an entity and a search by one of its relations agree on the relation**,
when both overlook the broad-search parameter and compare columns in the same way. The
semi-joins that the first attaches to the entity itself, each for an allowed relation, are
for this relation the one semi-join of the second, group and all; and when the second asks
for nothing, the first has no semi-join for the relation. Where no other relation of the
entity is declared like this one, its semi-joins are those that have its declaration. -/
theorem compileRelation_agrees {entity relation : String} {e : Entity} {source : Source}
    {options options' : SearchOptions} {clock : Clock} {result result' : CompiledSearch}
    (hentity : c.registry.get entity = .ok e)
    (hsource : source.searchInput c.settings.broadKey = source.toBag)
    (hignore : options.ignoreBroad = true)
    (hoptions : options' = { options with followRelations := options'.followRelations })
    (h : c.compile catalog entity source options clock = .ok result)
    (h' : c.compileRelation catalog entity relation source none options' = .ok result') :
    (∃ requested joins,
      (c.context options requested catalog).Outermost e e.spec.allowedRelations joins ∧
      result.predicate.outerJoins = joins.map Prod.snd ∧
      (∀ s, (relation, s) ∈ joins → result'.predicate = ⟨.and, [s.toPredicate]⟩) ∧
      (result'.predicate.isEmpty = true → ∀ s, (relation, s) ∉ joins)) ∧
    (c.registry.DeclaredOnce e relation → ∀ s ∈ result.predicate.outerJoins, ∀ target,
      c.registry.relation e relation = .ok (s.relation, target) →
        result'.predicate = ⟨.and, [s.toPredicate]⟩) := by
  obtain ⟨request, walked, table, range, hrequest, hwalked, -, -, rfl⟩ := parts_of_compile h
  obtain ⟨htarget, hbag, -⟩ := parts_of_prepare hrequest
  cases hentity.symm.trans htarget
  rw [requestWalk, hignore, SearchContext.walk_succ] at hwalked
  obtain ⟨own, hown, hloop⟩ := exists_of_bind_ok hwalked
  obtain ⟨joins, hjoins, houter, hmade⟩ := SearchContext.outermost_of_foldlM hloop
  rw [SearchContext.outerJoins_ownPredicate hown, List.nil_append] at houter
  have hignore' : options'.ignoreBroad = true := by rw [hoptions, hignore]
  have hagrees : ∀ s, (relation, s) ∈ joins → result'.predicate = ⟨.and, [s.toPredicate]⟩ := by
    intro s hs
    have hmade := hmade _ hs
    rcases madeFor_of_compileRelation hentity (hsource ▸ hbag) hignore' h' with
      ⟨hempty, -⟩ | ⟨requested, s', hmade', hpredicate⟩
    · -- An empty share leaves nothing to make a semi-join of.
      obtain ⟨-, -, -, -, -, hshare, -⟩ := hmade
      exact absurd (hempty.symm.trans hshare) (by decide)
    · rw [hoptions] at hmade'
      have hsame : s = s' := hmade.eq false requested hmade'
      rw [hpredicate, hsame]
  refine ⟨⟨request.requested, joins, hjoins, houter, hagrees, fun hempty s hs => ?_⟩,
    fun honce s hs target hrelation => ?_⟩
  · rw [hagrees s hs] at hempty
    cases hempty
  · obtain ⟨⟨name, s'⟩, hj, rfl⟩ := List.mem_map.mp (houter ▸ hs)
    obtain ⟨target', hname, -⟩ := hjoins.isFor _ hj
    obtain rfl : name = relation := honce name _ target target' hrelation hname
    exact hagrees _ hj

/-- A key that goes round a circle of relations, searched for from a pond and by its fish. -/
theorem compileRelation_agrees_pond :
    ∃ (result result' : CompiledSearch) (joins : List (String × SemiJoin)),
      Pond.compiler.compile Pond.catalog "Pond" Pond.addressed Pond.ignoring Pond.clock =
        .ok result ∧
      Pond.compiler.compileRelation Pond.catalog "Pond" "fish" Pond.addressed none Pond.ignoring =
        .ok result' ∧
      result.predicate.outerJoins = joins.map Prod.snd ∧
      (∀ s, ("fish", s) ∈ joins → result'.predicate = ⟨.and, [s.toPredicate]⟩) ∧
      ∃ s ∈ result.predicate.outerJoins, result'.predicate = ⟨.and, [s.toPredicate]⟩ := by
  obtain ⟨result, h, houter⟩ := exists_of_map_ok (f := fun r => r.predicate.outerJoins.map
    fun s => s.relation) (x := Pond.compiler.compile Pond.catalog "Pond" Pond.addressed
      Pond.ignoring Pond.clock) (b := [⟨"fish", "Fish", "id", "pond_id", none⟩]) (by decide +kernel)
  obtain ⟨result', h'⟩ := exists_of_toBool (x := Pond.compiler.compileRelation Pond.catalog "Pond"
    "fish" Pond.addressed none Pond.ignoring) (by decide +kernel)
  have honce : Pond.registry.DeclaredOnce Pond.pond "fish" := fun other _ _ _ _ hother =>
    List.mem_singleton.mp (Registry.of_relation hother).1
  obtain ⟨⟨-, joins, -, hjoins, hagrees, -⟩, hdeclared⟩ :=
    compileRelation_agrees (e := Pond.pond) rfl rfl rfl rfl h h'
  obtain ⟨s, hs, hrelation⟩ := List.map_eq_singleton_iff.mp houter
  have hmem : s ∈ result.predicate.outerJoins := hs ▸ List.mem_singleton_self s
  refine ⟨result, result', joins, h, h', hjoins, hagrees, s, hmem, ?_⟩
  exact hdeclared honce s hmem Pond.fish (by rw [hrelation]; rfl)

end Compiler

end RelationalSearch
