import RelationalSearch.Entity

/-!
# Entities of mapped classes

Classes can be mapped to tables whose columns refer to each other, and have
relationships with other classes. How a relationship is joined follows from the
references: there must be exactly one between the two tables, or between each of
them and the association table. A class is then registered as an entity, with the
relations that its search behaviour allows; what the class does not have is left
undeclared.

All classes are configured together when the first relation is asked for. If
that fails, the classes stay unusable.
-/

namespace RelationalSearch

/-! ### Joins -/

/-- How the rows of two tables are joined: by pairs of equal columns, a local and
a remote one, or through an association table by pairs of a column and one of the
association table. -/
inductive Join where
  /-- Pairs of a local and a remote column. -/
  | direct (pairs : List (String × String))
  /-- Pairs for the source and pairs for the target, each of an own column and one
  of the association table. -/
  | through (table : String) (near far : List (String × String))
  deriving DecidableEq, Repr, Inhabited

/-- The relation that follows a join, by the first pair of columns on each
side. -/
def Relation.ofJoin? (name target : String) : Join → Option Relation
  | .direct pairs => pairs.head?.map fun p => ⟨name, target, p.1, p.2, none⟩
  | .through table near far => do
    let source ← near.head?
    let goal ← far.head?
    return ⟨name, target, source.1, goal.1, some ⟨table, source.2, goal.2⟩⟩

/-! ### Mapped classes -/

/-- A column of a mapped table. -/
structure MappedColumn where
  name : String
  /-- The name under which the class has it. -/
  accessor : String
  isPrimary : Bool
  /-- The table and column that it refers to. -/
  reference : Option (String × String)
  deriving DecidableEq, Repr, Inhabited

/-- A table with columns that may refer to others. -/
structure MappedTable where
  name : String
  columns : List MappedColumn
  deriving DecidableEq, Repr, Inhabited

/-- A relationship of a mapped class. -/
structure Relationship where
  name : String
  target : String
  secondary : Option String
  /-- The attribute on the remote side, where a class is related to itself. -/
  remoteSide : Option String
  deriving DecidableEq, Repr, Inhabited

/-- A class mapped to a table. -/
structure MappedClass where
  name : String
  table : MappedTable
  relationships : List Relationship
  deriving DecidableEq, Repr, Inhabited

/-- Classes that are mapped together, and the association tables between them. -/
structure Mapping where
  associations : List MappedTable
  classes : List MappedClass
  deriving Repr, Inhabited

namespace Mapping

/-- The class of a name. -/
def class? (m : Mapping) (name : String) : Option MappedClass :=
  m.classes.find? fun c => c.name == name

/-- A reference from one table to another: the column that is referred to, the
column that refers, and the table of the latter. -/
structure Reference where
  referred : String
  referring : String
  table : String
  deriving DecidableEq, Repr

/-- The references that a table makes to another one. -/
def referencesTo (target source : MappedTable) : List Reference :=
  source.columns.filterMap fun c =>
    match c.reference with
    | some (table, column) =>
      if table == target.name && target.columns.any fun t => t.name == column then
        some ⟨column, c.name, source.name⟩
      else none
    | none => none

/-- The only reference between two tables, in either direction. -/
def joinReference (a b : MappedTable) : Except Fault Reference :=
  match referencesTo a b ++ (if a.name == b.name then [] else referencesTo b a) with
  | [r] => .ok r
  | [] => .error .noForeignKeys
  | _ => .error .ambiguousForeignKeys

/-- The join of a class with itself by a reference: the referring column is remote
unless the remote side is given. -/
def selfJoin (table : MappedTable) (r : Reference) (remoteSide : Option String) :
    Except Fault Join :=
  match remoteSide with
  | none => .ok (.direct [(r.referred, r.referring)])
  | some accessor =>
    let column := ((table.columns.find? fun c => c.accessor == accessor).map
      MappedColumn.name).getD accessor
    if column == r.referring then .ok (.direct [(r.referred, r.referring)])
    else if column == r.referred then .ok (.direct [(r.referring, r.referred)])
    else .error .badOperand

/-- The join of a relationship. -/
def join (m : Mapping) (owner : MappedClass) (r : Relationship) : Except Fault Join := do
  match m.class? r.target with
  | none => throw .badMapping
  | some target =>
    match r.secondary with
    | some name =>
      match m.associations.find? fun t => t.name == name with
      | none => throw .badMapping
      | some association =>
        let far ← joinReference target.table association
        let near ← joinReference owner.table association
        return .through name [(near.referred, near.referring)] [(far.referred, far.referring)]
    | none =>
      let reference ← joinReference owner.table target.table
      if owner.table.name == target.table.name then
        selfJoin owner.table reference r.remoteSide
      else if reference.table == target.table.name then
        return .direct [(reference.referred, reference.referring)]
      else return .direct [(reference.referring, reference.referred)]

/-- Configures all relationships, in order. -/
def configure (m : Mapping) : Except Fault Unit :=
  m.classes.forM fun c => c.relationships.forM fun r => (m.join c r).map fun _ => ()

/-- Whether tables have names of their own and classes a primary column. -/
def check (m : Mapping) : Except Fault Unit :=
  let names := m.associations.map MappedTable.name ++ m.classes.map fun c => c.table.name
  if !decide names.Nodup then .error .badMapping
  else if m.classes.any fun c => !c.table.columns.any MappedColumn.isPrimary then
    .error .badOperand
  else .ok ()

/-- The relations of a class that a search behaviour allows, under their
names. -/
def relations (m : Mapping) (c : MappedClass) (allowed : List String) :
    Except Fault (List (String × Relation)) :=
  allowed.foldlM
    (fun found name =>
      match c.relationships.find? fun r => r.name == name with
      | none => .ok found
      | some r =>
        (m.join c r).map fun join =>
          match Relation.ofJoin? name r.target join with
          | some relation => if found.any fun e => e.1 == name then found
              else found ++ [(name, relation)]
          | none => found)
    []

/-- The entity of a class. -/
def entity (m : Mapping) (c : MappedClass) (spec : SearchSpec) (name : Option String) :
    Except Fault Entity := do
  if !spec.allowedRelations.isEmpty then m.configure
  let relations ← m.relations c spec.allowedRelations
  let name := name.getD ""
  return ⟨if name.isEmpty then c.name else name, c.table.name, spec, relations⟩

end Mapping

/-- What has been registered of mapped classes, and whether configuring them has
failed. -/
structure MappedRegistry where
  registry : Registry
  unusable : Bool
  deriving Repr, Inhabited

namespace MappedRegistry

/-- Nothing registered, and nothing configured. -/
def empty : MappedRegistry := ⟨Registry.empty, false⟩

/-- Registers a class as an entity. -/
def register (state : MappedRegistry) (m : Mapping) (className : String) (spec : SearchSpec)
    (name : Option String) : Except Fault Entity × MappedRegistry :=
  match m.class? className with
  | none => (.error .missingKey, state)
  | some c =>
    if state.unusable && !spec.allowedRelations.isEmpty then (.error .badMapping, state)
    else match m.entity c spec name with
      | .ok e => (.ok e, { state with registry := state.registry.register e })
      | .error fault => (.error fault, { state with unusable := true })

end MappedRegistry

end RelationalSearch
