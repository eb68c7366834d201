import RelationalSearch.Predicate
import RelationalSearch.Value.Text

/-!
# The text of a predicate

Comparisons are written as in a query, with texts in single quotes; a semi-join
is written `EXISTS relation(…)`; the members of a group are joined by its
connective, and those that are groups of several members stand in parentheses.
The group that asks for nothing is written `TRUE`.
-/

namespace RelationalSearch

/-- The word of a connective. -/
def Connective.word : Connective → String
  | .and => "AND"
  | .or => "OR"

/-- The sign of a comparison. -/
def Comparison.sign : Comparison → String
  | .equal => "="
  | .like => "LIKE"
  | .oneOf => "IN"
  | .isNull => "IS NULL"

/-- A value as an operand of a comparison. -/
def Value.operand : Value → String
  | .str s => Text.sqlLiteral s
  | v => v.shown

/-- The values that a comparison with several runs through. -/
def Value.alternatives? : Value → Option (List Value)
  | .list items => some items
  | .tuple items => some items
  | .str s => some (s.toList.map fun c => .str (String.singleton c))
  | .bytes octets => some (octets.map fun b => .int b.toNat)
  | .map entries => some (entries.map Prod.fst)
  | .bag entries => some (entries.map fun e => .str e.1)
  | _ => none

/-- A comparison as text; a comparison with several values needs something to
run through. -/
def Condition.render (c : Condition) : Except Fault String :=
  match c.comparison with
  | .isNull => .ok (c.column ++ " IS NULL")
  | .oneOf =>
    match c.value.alternatives? with
    | some values => .ok (c.column ++ " IN (" ++ ", ".intercalate (values.map Value.operand) ++ ")")
    | none => .error .wrongKind
  | sign => .ok (c.column ++ " " ++ sign.sign ++ " " ++ c.value.operand)

/-- The text of a group, given the texts of its members. -/
def renderedGroup (connective : Connective) (parts : List String) : String :=
  if parts.isEmpty then "TRUE" else (" " ++ connective.word ++ " ").intercalate parts

namespace Predicate

/-- Whether a predicate is a group of several members. -/
def needsParentheses : Predicate → Bool
  | group _ (_ :: _ :: _) => true
  | _ => false

mutual

/-- The text of a predicate. -/
def render : Predicate → Except Fault String
  | condition c => c.render
  | group connective members => do
    return renderedGroup connective (← renderMembers members)
  | related relation _ connective members => do
    return "EXISTS " ++ relation.name ++ "(" ++ renderedGroup connective (← renderMembers members) ++ ")"

/-- The texts of the members of a group. -/
def renderMembers : List Predicate → Except Fault (List String)
  | [] => return []
  | p :: rest => do
    let text ← render p
    let texts ← renderMembers rest
    return (if p.needsParentheses then "(" ++ text ++ ")" else text) :: texts

end

end Predicate

/-- The text of a group. -/
def Group.render (g : Group) : Except Fault String := g.toPredicate.render

end RelationalSearch
