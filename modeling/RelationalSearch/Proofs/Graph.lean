import Mathlib.Data.Finset.Card
import Mathlib.Data.Finset.Dedup
import Mathlib.Logic.Relation
import RelationalSearch.Proofs.Scoping

/-!
# The graph of entities

The relations that entities allow make a registry into a directed graph, and
nothing keeps this graph from having cycles. An entity stands for its name
(`RelationalSearch.Registry.Registered`); an edge is a relation that resolves
(`RelationalSearch.Registry.of_relation`), and it has the name of the scope that
its parameters are written in.

A run that goes from entity to entity and comes to each at most once ends after
as many entities as there are names: the names that are left
(`RelationalSearch.Registry.unseen`) become fewer with each of them.
-/

namespace RelationalSearch

/-- The name that stands in front of the parameters of a relation: its scope key,
without white space around it. -/
def scopeName (relation : String) : String := Text.trim (scopeKey relation)

namespace Registry

variable {r : Registry} {e e' target : Entity} {name : String} {relation : Relation}

/-- Every relation that may be followed has a scope name. -/
def ScopesNamed (r : Registry) : Prop :=
  ∀ e ∈ r.entities, ∀ name ∈ e.spec.allowedRelations, scopeName name ≠ ""

/-- In the scope of a relation a key has the scope name in front. -/
theorem ScopesNamed.written_eq (h : r.ScopesNamed) (he : e ∈ r.entities)
    (hname : name ∈ e.spec.allowedRelations) (key : String) :
    Scope.written (scopeName name) key = scopeName name ++ "_" ++ key := by
  rw [Scope.written, if_neg]
  rw [String.isEmpty_iff]
  exact h e he name hname

/-! ### Registered entities -/

/-- An entity is the one that its name stands for. -/
def Registered (r : Registry) (e : Entity) : Prop := r.find? e.name = some e

theorem registered_of_find? (h : r.find? name = some e) : r.Registered e ∧ e.name = name := by
  have hname : e.name = name := by simpa using List.find?_some h
  exact ⟨by rwa [Registered, hname], hname⟩

theorem registered_of_get (h : r.get name = .ok e) : r.Registered e := by
  rw [get] at h
  split at h
  next hfind =>
    cases h
    exact (registered_of_find? hfind).1
  next => cases h

theorem Registered.mem (h : r.Registered e) : e ∈ r.entities := List.mem_of_find?_eq_some h

/-- Two registered entities of one name are the same. -/
theorem Registered.eq_of_name (h : r.Registered e) (h' : r.Registered e')
    (hname : e.name = e'.name) : e = e' := by
  rw [Registered, hname, h'] at h
  exact (Option.some.inj h).symm

/-! ### Relations that resolve -/

/-- **What it takes to resolve a relation**: the entity allows it, and its target
is registered. -/
theorem of_relation (h : r.relation e name = .ok (relation, target)) :
    name ∈ e.spec.allowedRelations ∧ e.relations.lookup name = some relation ∧
      r.find? relation.target = some target := by
  rw [Registry.relation] at h
  split at h
  · cases h
  next hallowed =>
    split at h
    · cases h
    next hlookup =>
      split at h
      · cases h
      next hfind =>
        cases h
        exact ⟨by simpa using hallowed, hlookup, hfind⟩

theorem registered_of_relation (h : r.relation e name = .ok (relation, target)) :
    r.Registered target :=
  (registered_of_find? (of_relation h).2.2).1

theorem target_of_relation (h : r.relation e name = .ok (relation, target)) :
    relation.target = target.name :=
  (registered_of_find? (of_relation h).2.2).2.symm

/-- A relation that does not resolve is refused as such. -/
theorem kind_of_relation_error {err : SearchError} (h : r.relation e name = .error err) :
    err.kind = .unknownRelation := by
  rw [Registry.relation] at h
  split at h
  · cases h
    rfl
  · split at h
    · cases h
      rfl
    · split at h
      · cases h
        rfl
      · cases h

/-- One entity leads to another: by a relation that it allows. -/
def Leads (r : Registry) (e target : Entity) : Prop :=
  ∃ name relation, r.relation e name = .ok (relation, target)

/-- **The entities that can be reached from an entity**, itself included. -/
def Reaches (r : Registry) : Entity → Entity → Prop := Relation.ReflTransGen r.Leads

theorem Reaches.registered (he : r.Registered e) (h : r.Reaches e e') : r.Registered e' := by
  cases h with
  | refl => exact he
  | tail _ hlast =>
    obtain ⟨name, relation, hrelation⟩ := hlast
    exact registered_of_relation hrelation

/-! ### The names that are left -/

/-- How many names of entities are not on a path. -/
def unseen (r : Registry) (path : List String) : Nat :=
  ((r.entities.map Entity.name).toFinset \ path.toFinset).card

theorem unseen_le (path : List String) : r.unseen path ≤ r.entities.length := by
  refine (Finset.card_le_card Finset.sdiff_subset).trans ?_
  exact (List.toFinset_card_le _).trans_eq (List.length_map _)

theorem unseen_anti {path path' : List String} (h : path ⊆ path') :
    r.unseen path' ≤ r.unseen path := by
  refine Finset.card_le_card (Finset.sdiff_subset_sdiff (Finset.Subset.refl _) fun x hx => ?_)
  exact List.mem_toFinset.mpr (h (List.mem_toFinset.mp hx))

/-- **Every new entity on a path leaves fewer names.** -/
theorem unseen_lt {path path' : List String} (he : e ∈ r.entities) (hpath : e.name ∉ path)
    (h : path ⊆ path') (hpath' : e.name ∈ path') : r.unseen path' < r.unseen path := by
  refine Finset.card_lt_card (Finset.ssubset_iff_of_subset ?_ |>.mpr ⟨e.name, ?_, ?_⟩)
  · exact Finset.sdiff_subset_sdiff (Finset.Subset.refl _) fun x hx =>
      List.mem_toFinset.mpr (h (List.mem_toFinset.mp hx))
  · rw [Finset.mem_sdiff, List.mem_toFinset, List.mem_toFinset]
    exact ⟨List.mem_map_of_mem he, hpath⟩
  · rw [Finset.mem_sdiff, List.mem_toFinset, List.mem_toFinset]
    exact fun hmem => hmem.2 hpath'

theorem unseen_pos {path : List String} (he : e ∈ r.entities) (hpath : e.name ∉ path) :
    0 < r.unseen path :=
  (Nat.zero_le _).trans_lt (unseen_lt he hpath (List.subset_cons_self e.name path)
    List.mem_cons_self)

end Registry

end RelationalSearch
