import RelationalSearch.Checked
import RelationalSearch.Entity

/-!
# Declared entities

Entities and their relations are declared as records. A declaration is checked
from the inside out: first the relations one by one, then the search behaviour,
then the entity itself. What a declaration leaves out has its usual value.
-/

namespace RelationalSearch

/-- The association of a declaration. -/
def Association.declared (fields : List (String × Value)) : Checked Association :=
  let table := Checked.required Checked.text fields "table"
  let localKey := Checked.required Checked.text fields "local_key"
  let remoteKey := Checked.required Checked.text fields "remote_key"
  match table, localKey, remoteKey with
  | .ok t, .ok l, .ok r => .ok ⟨t, l, r⟩
  | t, l, r => .error (t.complaints ++ l.complaints ++ r.complaints)

/-- The association of a relation, if it has one. -/
def Association.checked (place : String) : Value → Checked (Option Association)
  | .null => .ok none
  | .map entries =>
    Checked.within place ((Association.declared (Checked.fieldsOf entries)).map some)
  | _ => Checked.wrong place "model_type"

/-- The relation of a declaration. -/
def Relation.declared (fields : List (String × Value)) : Checked Relation :=
  let name := Checked.required Checked.text fields "name"
  let target := Checked.required Checked.text fields "target"
  let localKey := Checked.required Checked.text fields "local_key"
  let remoteKey := Checked.required Checked.text fields "remote_key"
  let secondary := Checked.optional Association.checked none fields "secondary"
  match name, target, localKey, remoteKey, secondary with
  | .ok n, .ok t, .ok l, .ok r, .ok s => .ok ⟨n, t, l, r, s⟩
  | n, t, l, r, s => .error (n.complaints ++ t.complaints ++ l.complaints ++ r.complaints
      ++ s.complaints)

/-- The search behaviour of a declaration. -/
def SearchSpec.declared (fields : List (String × Value)) : Checked SearchSpec :=
  let texts := Checked.optional Checked.texts [] fields
  let optionalText := Checked.optional Checked.optionalText none fields
  let excluded := texts "excluded_keys"
  let like := texts "like_keys"
  let allowed := texts "allowed_relations"
  let broad := texts "q_relations"
  let column := optionalText "time_column"
  let zone := optionalText "time_zone"
  let nulls := Checked.optional Checked.truth false fields "nulls_first"
  match excluded, like, allowed, broad, column, zone, nulls with
  | .ok e, .ok l, .ok a, .ok q, .ok c, .ok z, .ok n => .ok ⟨e, l, a, q, c, z, n⟩
  | _, _, _, _, _, _, _ => .error (excluded.complaints ++ like.complaints ++ allowed.complaints
      ++ broad.complaints ++ column.complaints ++ zone.complaints ++ nulls.complaints)

namespace Entity

/-- Stores a relation under its accessor: a known accessor keeps its place. -/
def putRelation : List (String × Relation) → String → Relation → List (String × Relation)
  | [], key, r => [(key, r)]
  | e :: rest, key, r => if e.1 = key then (key, r) :: rest else e :: putRelation rest key r

/-- A declared relation with its accessor, which is its name unless a `key` is
given. -/
def relationDeclared (v : Value) : Checked (String × Relation) :=
  match v with
  | .map entries =>
    let fields := Checked.fieldsOf entries
    (Relation.declared fields).map fun r =>
      (match fields.lookup "key" with
        | some (.str key) => (key, r)
        | _ => (r.name, r))
  | _ => Checked.wrong "relations" "model_type"

/-- The relations of a declaration, up to the first wrong one. -/
def relationsDeclared (declarations : List Value) : Checked (List (String × Relation)) :=
  declarations.foldlM
    (fun relations v => (relationDeclared v).map fun r => putRelation relations r.1 r.2) []

/-- The entity of a declaration. -/
def declared (fields : List (String × Value)) : Checked Entity := do
  let spec ← match fields.lookup "spec" with
    | some (.map entries) => SearchSpec.declared (Checked.fieldsOf entries)
    | _ => pure SearchSpec.plain
  let relations ← match fields.lookup "relations" with
    | some (.list declarations) => relationsDeclared declarations
    | _ => pure []
  match Checked.required Checked.text fields "name",
      Checked.required Checked.text fields "table" with
  | .ok name, .ok table => .ok ⟨name, table, spec, relations⟩
  | name, table => .error (name.complaints ++ table.complaints)

end Entity

end RelationalSearch
