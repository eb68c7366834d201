import RelationalSearch.Narrated
import RelationalSearch.Search.LookAhead

/-!
# Walking the relations

The predicate of an entity is that of its own columns together with a semi-join
for every relation in which there is something to find. The relations are taken
in the order in which the entity allows them; each is searched with its own share
of the parameters. A broad search skips entities that it has visited, wherever on
the walk that was, so the visited entities are handed on from relation to
relation and are part of the result.
-/

namespace RelationalSearch

/-- What a walk has come to. -/
structure Walked where
  predicate : Group
  /-- The visited entities, in the order of the first visit. -/
  visited : List String
  deriving Repr, Inhabited

/-- Notes a visit. -/
def noteVisit (visited : List String) (name : String) : List String :=
  if visited.contains name then visited else visited ++ [name]

namespace SearchContext

/-- How a relation is joined to what has been found so far: as an alternative
when the broad-search parameter went into it and it is a broad relation. -/
def relationConnective (c : SearchContext) (e : Entity) (relation : String) (broad : Bool)
    (inner : Bag) : Connective :=
  if broad && inner.filled c.broadKey && c.isBroadRelation e relation then .or else .and

/-- Whether a relation is searched at all. -/
def entersRelation (c : SearchContext) (visited : List String) (left : Nat) (target : Entity)
    (inner : Bag) (broad : Bool) : Except SearchError Bool :=
  if inner.isEmpty then .ok false
  else if c.onlyBroad inner && visited.contains target.name then .ok false
  else c.findsAny visited left target inner (!broad) []

/-- The line that is logged when a relation is searched. -/
def hopLine (e : Entity) (relation : String) (inner : Bag) : LogLine :=
  .debug ("Searching " ++ entityMarkup e.name ++ "." ++ relationMarkup relation ++ " with "
    ++ ", ".intercalate inner.keys)

/-- The predicate of an entity and of all it reaches. -/
def walk (c : SearchContext) :
    (left : Nat) → Entity → Bag → (ignoreBroad : Bool) → (visited : List String) →
      Narrated SearchError Walked
  | 0, e, _, _, _ => Narrated.silent (.error (.tooDeep c.maxDepth e.name))
  | left + 1, e, bag, ignoreBroad, visited => do
    let own ← Narrated.silent (c.ownPredicate e bag ignoreBroad)
    e.spec.allowedRelations.foldlM
      (fun found name => do
        let (relation, target) ← Narrated.silent (c.registry.relation e name)
        let broad := !ignoreBroad && c.propagates e name
        let inner := c.relationParameters bag name !broad
        let enters ← Narrated.silent (c.entersRelation found.visited left target inner broad)
        if enters then do
          Narrated.say (hopLine e name inner)
          let below ← walk c left target inner (!broad) found.visited
          let join := Group.related relation target.table below.predicate
          return ⟨Group.of (c.relationConnective e name broad inner)
            [found.predicate.toPredicate, join], below.visited⟩
        else return found)
      ⟨own, noteVisit visited e.name⟩

end SearchContext

end RelationalSearch
