import RelationalSearch.Error

/-!
# Searchable entities

An entity is a table with a search behaviour and with relations to other
entities. A registry holds entities under their names, in the order in which
they were first registered; a relation is resolved against the registry, and
there are three ways in which that can fail.
-/

namespace RelationalSearch

/-- A table that associates rows of two entities. -/
structure Association where
  table : String
  /-- The column that refers to the source's key. -/
  localKey : String
  /-- The column that refers to the target's key. -/
  remoteKey : String
  deriving DecidableEq, Repr, Inhabited

/-- How the rows of a target entity are reached. -/
structure Relation where
  name : String
  target : String
  localKey : String
  remoteKey : String
  secondary : Option Association
  deriving DecidableEq, Repr, Inhabited

/-- How an entity is searched. -/
structure SearchSpec where
  /-- Parameters that are never looked at. -/
  excludedKeys : List String
  /-- Columns compared loosely instead of for equality. -/
  likeKeys : List String
  /-- Relations that a search may follow. -/
  allowedRelations : List String
  /-- Relations that a broad search follows as an alternative. -/
  qRelations : List String
  /-- The column of the time range, if it is not the usual one. -/
  timeColumn : Option String
  /-- The zone of the time range, if it is not the usual one. -/
  timeZone : Option String
  /-- Whether rows without a value are sorted first. -/
  nullsFirst : Bool
  deriving DecidableEq, Repr

/-- A search without exclusions, loose columns or relations. -/
def SearchSpec.plain : SearchSpec := ⟨[], [], [], [], none, none, false⟩

instance : Inhabited SearchSpec := ⟨SearchSpec.plain⟩

/-- A table that can be searched. -/
structure Entity where
  name : String
  table : String
  spec : SearchSpec
  /-- The declared relations, under their accessors. -/
  relations : List (String × Relation)
  deriving DecidableEq, Repr, Inhabited

/-- The entities that can be searched. -/
structure Registry where
  entities : List Entity
  deriving Repr, Inhabited

namespace Registry

/-- The registry without entities. -/
def empty : Registry := ⟨[]⟩

/-- Puts an entity in a list: one of the same name is replaced where it stands. -/
def putEntity : List Entity → Entity → List Entity
  | [], e => [e]
  | x :: rest, e => if x.name = e.name then e :: rest else x :: putEntity rest e

/-- Registers an entity under its name. -/
def register (r : Registry) (e : Entity) : Registry := ⟨putEntity r.entities e⟩

/-- The entity of a name. -/
def find? (r : Registry) (name : String) : Option Entity :=
  r.entities.find? fun e => e.name == name

/-- Whether an entity has a name. -/
def contains (r : Registry) (name : String) : Bool := (r.find? name).isSome

/-- The entity of a name, or the refusal. -/
def get (r : Registry) (name : String) : Except SearchError Entity :=
  match r.find? name with
  | some e => .ok e
  | none => .error (.unknownEntity name)

/-- A relation of an entity with its target entity. The relation must be allowed
by the entity and declared by it, and its target must be registered. -/
def relation (r : Registry) (entity : Entity) (name : String) :
    Except SearchError (Relation × Entity) :=
  if !entity.spec.allowedRelations.contains name then
    .error (.relationNotAllowed name entity.name)
  else match entity.relations.lookup name with
    | none => .error (.relationNotDeclared name entity.name)
    | some declared =>
      match r.find? declared.target with
      | none => .error (.targetNotSearchable name entity.name declared.target)
      | some target => .ok (declared, target)

end Registry

end RelationalSearch
