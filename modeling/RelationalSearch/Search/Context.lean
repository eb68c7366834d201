import RelationalSearch.Params.Scope
import RelationalSearch.Predicate.Build
import RelationalSearch.Schema.Catalog
import RelationalSearch.Settings
import RelationalSearch.Word.Snake

/-!
# The surroundings of one search

What stays the same while a search follows relations: the registered entities,
the tables, the limits, and what the request switches on. A parameter reaches a
relation under the relation's scope key; the broad-search parameter reaches it
unless it stays behind, which depends on the entity, on the request and on the
way it came.
-/

namespace RelationalSearch

/-- What a request can switch on. -/
structure SearchOptions where
  /-- A broad search goes into every relation. -/
  followRelations : Bool
  /-- The broad-search parameter is overlooked. -/
  ignoreBroad : Bool
  /-- Columns are alternatives of each other. -/
  forceOr : Bool
  /-- All columns are compared loosely. -/
  forceLike : Bool
  deriving DecidableEq, Repr, Inhabited

/-- Nothing is switched on. -/
def SearchOptions.plain : SearchOptions := ⟨false, false, false, false⟩

/-- The surroundings of a search. -/
structure SearchContext where
  registry : Registry
  catalog : Catalog
  /-- The key of the broad-search parameter. -/
  broadKey : String
  /-- A column of this name is not searchable. -/
  columnAlias : String
  maxDepth : Nat
  followRelations : Bool
  forceOr : Bool
  forceLike : Bool
  /-- The relations that the request names for a broad search. -/
  requested : List String
  deriving Repr, Inhabited

namespace SearchContext

/-! ### Tables and columns -/

/-- The table of an entity. -/
def table (c : SearchContext) (e : Entity) : Except SearchError Table := c.catalog.table e.table

/-- The searchable columns of an entity. -/
def columns (c : SearchContext) (e : Entity) : Except SearchError (List String) :=
  (c.table e).map fun t => Catalog.searchable t e.spec.excludedKeys c.columnAlias

/-! ### The way of the broad-search parameter -/

/-- Whether a broad search takes a relation as an alternative to the entity. -/
def isBroadRelation (c : SearchContext) (e : Entity) (relation : String) : Bool :=
  e.spec.qRelations.contains relation || c.requested.contains relation

/-- Whether the broad-search parameter goes into a relation. -/
def propagates (c : SearchContext) (e : Entity) (relation : String) : Bool :=
  c.followRelations || c.isBroadRelation e relation

/-- The parameters of a relation. -/
def relationParameters (c : SearchContext) (bag : Bag) (relation : String) (ignoreBroad : Bool) : Bag :=
  Scope.apply ⟨[], scopeKey relation, ignoreBroad, c.broadKey⟩ bag

/-- The parameters that an entity looks at. -/
def ownParameters (c : SearchContext) (e : Entity) (bag : Bag) (ignoreBroad : Bool) : Bag :=
  Scope.apply ⟨e.spec.excludedKeys, "", ignoreBroad, c.broadKey⟩ bag

/-- Whether nothing but the broad-search parameter is left. -/
def onlyBroad (c : SearchContext) (bag : Bag) : Bool := bag.only [c.broadKey]

/-! ### The predicate of one entity -/

/-- The predicate of an entity's own columns. -/
def ownPredicate (c : SearchContext) (e : Entity) (bag : Bag) (ignoreBroad : Bool) :
    Except SearchError Group :=
  let data := c.ownParameters e bag ignoreBroad
  (c.table e).map fun t =>
    buildPredicate t (Catalog.searchable t e.spec.excludedKeys c.columnAlias) e.spec.likeKeys data
      ⟨!ignoreBroad && data.filled c.broadKey, c.forceOr, c.forceLike, c.broadKey⟩

end SearchContext

end RelationalSearch
