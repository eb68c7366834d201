import RelationalSearch.Predicate

/-!
# Predicates written by hand

A predicate can be put together from fields of any kind. `Draft.build` checks
the fields from the inside out and gives the predicate, or the places where a
field is wrong: a name that is no text, a word that is not one of those allowed,
a member that is no predicate.
-/

namespace RelationalSearch

/-- A predicate before its fields are checked. -/
inductive Draft where
  /-- A comparison. -/
  | condition (column comparison value : Value)
  /-- A group, exactly as written. -/
  | group (connective : Value) (members : List Draft)
  /-- A composed group. -/
  | composed (connective : Value) (members : List Draft)
  /-- A semi-join; its relation may already have wrong fields. -/
  | related (relation : Except (List (String × String)) Relation) (targetTable : Value)
      (inner : Draft)
  /-- Something else than a predicate. -/
  | foreign
  deriving Inhabited

namespace Draft

/-- What is wrong with a field that must be a text. -/
def notText : String := "string_type"

/-- What is wrong with a field that must be one of some words. -/
def notAmong : String := "literal_error"

/-- What is wrong with a field that must be a record. -/
def notRecord : String := "model_type"

/-- Reads a connective. -/
def connective? : Value → Option Connective
  | .str "AND" => some .and
  | .str "OR" => some .or
  | _ => none

/-- Reads a comparison. -/
def comparison? : Value → Option Comparison
  | .str "=" => some .equal
  | .str "LIKE" => some .like
  | .str "IN" => some .oneOf
  | .str "IS NULL" => some .isNull
  | _ => none

/-- The complaints about a member that is no predicate. -/
def foreignMember (index : Nat) : List (String × String) :=
  let place := "children." ++ toString index ++ "."
  [(place ++ "Condition", notRecord), (place ++ "Group", notRecord),
    (place ++ "RelationFilter", notRecord)]

/-- Builds a comparison. -/
def buildCondition (column comparison value : Value) : Except Failure Predicate :=
  match column.text?, comparison? comparison with
  | some c, some o => .ok (.condition ⟨c, o, value⟩)
  | c, o => .error (.invalidFields
      ((if c.isNone then [("column", notText)] else [])
        ++ (if o.isNone then [("operator", notAmong)] else [])))

/-- Builds a group from its members, those that are no predicates being `none`. -/
def buildGroup (connective : Option Connective) (members : List (Option Predicate)) :
    Except Failure Predicate :=
  let complaints := (if connective.isNone then [("connective", notAmong)] else [])
    ++ (members.zipIdx.flatMap fun m => if m.1.isNone then foreignMember m.2 else [])
  match connective with
  | some c => if complaints.isEmpty then .ok (.group c (members.filterMap id))
    else .error (.invalidFields complaints)
  | none => .error (.invalidFields complaints)

/-- What a member contributes to a composed group; without a connective nothing
is merged. -/
def contribution (connective : Option Connective) : Option Predicate → List (Option Predicate)
  | none => [none]
  | some p =>
    match connective with
    | some c => (p.contribution c).map some
    | none => match p.unwrapped with
      | .group c members => if members.isEmpty then [] else [some (.group c members)]
      | q => [some q]

/-- Builds a semi-join around a predicate, which must be a group. -/
def buildRelated (relation : Relation) (targetTable : Value) (inner : Option Predicate) :
    Except Failure Predicate :=
  match targetTable.text?, inner with
  | some t, some (.group c members) => .ok (.related relation t c members)
  | t, g => .error (.invalidFields
      ((if t.isNone then [("target_table", notText)] else [])
        ++ (match g with | some (.group ..) => [] | _ => [("predicate", notRecord)])))

mutual

/-- Checks a draft; `none` stands for something that is no predicate. -/
def check : Draft → Except Failure (Option Predicate)
  | condition column comparison value => (buildCondition column comparison value).map some
  | group connective members => do
    let ms ← checkAll members
    (buildGroup (connective? connective) ms).map some
  | composed connective members => do
    let ms ← checkAll members
    let c := connective? connective
    (buildGroup c (ms.flatMap (contribution c))).map some
  | related relation targetTable inner =>
    match relation with
    | .error fields => .error (.invalidFields fields)
    | .ok r => do
      let p ← check inner
      (buildRelated r targetTable p).map some
  | foreign => .ok none

/-- Checks drafts in order. -/
def checkAll : List Draft → Except Failure (List (Option Predicate))
  | [] => return []
  | d :: rest => do
    let p ← check d
    let ps ← checkAll rest
    return p :: ps

end

/-- The predicate of a draft. -/
def build (d : Draft) : Except Failure Predicate := do
  match ← d.check with
  | some p => return p
  | none => throw (.fault .wrongKind)

end Draft

end RelationalSearch
