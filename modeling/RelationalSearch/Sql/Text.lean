import RelationalSearch.Sql.Build
import RelationalSearch.Sql.Naming

/-!
# The text of a statement

A statement is written in the order of its parts: the selected columns, the
tables, the conditions, the order. An occurrence of a table inside a semi-join
gets a name when its table is written. A semi-join lists its own tables, and in
addition those that its conditions mention and that the enclosing query does not
list.
-/

namespace RelationalSearch.Sql

/-- The names of occurrences, as columns are written with them. -/
abbrev Names := List (Occurrence × String)

/-- A column with the name of its occurrence. -/
def ColumnRef.text (names : Names) (c : ColumnRef) : String :=
  (names.lookup c.occurrence).getD "" ++ "." ++ quotedName c.column

/-- The stem of parameters that are compared with a column. -/
def ColumnRef.stem (c : ColumnRef) : String := parameterStem c.column

/-- A name for an occurrence of a table, and the text that introduces it. -/
def introduce (table : TableDef) : StateM Naming (String × String) := do
  let name := quotedName (← Naming.next (tableStem table.name))
  return (name, table.text ++ " AS " ++ name)

/-- The occurrences that conditions mention without listing them, each once. -/
def unlisted (listed : List Occurrence) (criteria : List Clause) : List Occurrence :=
  (Clause.occurrencesOf criteria).foldl
    (fun found o => if listed.contains o || found.contains o then found else found ++ [o]) []

/-- Parentheses around a text, if it needs them. -/
def enclosed (needed : Bool) (text : String) : String :=
  if needed then "(" ++ text ++ ")" else text

/-- The rank of what a list of conditions stands in: that of their conjunction, or
nothing if there is only one. -/
def conditionRank (clauses : List Clause) : Nat :=
  match clauses with
  | _ :: _ :: _ => 3
  | _ => 0

/-- Whether a clause needs parentheses beside others: connectives are not nested
in themselves, and all others need them when they hold together less closely. -/
def Clause.needsParentheses (c : Clause) (around : Nat) : Bool := c.rank < around

mutual

/-- The text of a clause; `tables` are the texts of the occurrences that need no
name of their own, and `listed` those that the enclosing query lists. -/
def Clause.text (tables names : Names) (listed : List Occurrence) :
    Clause → StateM Naming String
  | .equals c v => do return c.text names ++ " = " ++ (← Naming.parameter c.stem v)
  | .equalsTruth c b => do return c.text names ++ " = " ++ (if b then "true" else "false")
  | .like c v => do return c.text names ++ " LIKE " ++ (← Naming.parameter c.stem v)
  | .atLeast c v => do return c.text names ++ " >= " ++ (← Naming.parameter c.stem v)
  | .atMost c v => do return c.text names ++ " <= " ++ (← Naming.parameter c.stem v)
  | .between c low high => do
    let first ← Naming.parameter c.stem low
    let last ← Naming.parameter c.stem high
    return c.text names ++ " BETWEEN " ++ first ++ " AND " ++ last
  | .oneOf c values => do
    let signs ← Naming.parameterList c.stem values
    return c.text names ++ " IN ("
      ++ (if signs.isEmpty then "NULL) AND (1 != 1" else ", ".intercalate signs) ++ ")"
  | .isNull c => do return c.text names ++ " IS NULL"
  | .isPresent c => do return c.text names ++ " IS NOT NULL"
  | .same a b => do return a.text names ++ " = " ++ b.text names
  | .conj clauses => do
    return " AND ".intercalate (← Clause.texts tables names listed 3 clauses)
  | .disj clauses => do
    return " OR ".intercalate (← Clause.texts tables names listed 2 clauses)
  | .existsRow depth target link criteria => do
    let label ← Naming.next "anon"
    let one ← Naming.parameter "param" (.int 1)
    let (own, from_, listedHere) ← match link with
      | none => do
        let (name, text) ← introduce target
        pure ([(Occurrence.target depth, name)], text, [Occurrence.target depth])
      | some l => do
        let (linkName, linkText) ← introduce l.table
        let (name, text) ← introduce target
        let own := [(Occurrence.target depth, name), (Occurrence.link depth, linkName)]
        pure (own, linkText ++ " JOIN " ++ text ++ " ON " ++ l.column.text own ++ " = "
          ++ l.targetColumn.text own, [Occurrence.link depth, Occurrence.target depth])
    let others := unlisted (listedHere ++ listed) criteria
    let froms := from_ :: others.map fun o => (tables.lookup o).getD ""
    let conditions ← Clause.texts tables (own ++ names) (listedHere ++ others)
      (conditionRank criteria) criteria
    return "EXISTS (SELECT " ++ one ++ " AS " ++ quotedName label ++ " \nFROM "
      ++ ", ".intercalate froms ++ " \nWHERE " ++ " AND ".intercalate conditions ++ ")"

/-- The texts of several clauses, each in parentheses if it needs them. -/
def Clause.texts (tables names : Names) (listed : List Occurrence) (around : Nat) :
    List Clause → StateM Naming (List String)
  | [] => return []
  | c :: rest => do
    let text ← Clause.text tables names listed c
    let texts ← Clause.texts tables names listed around rest
    return enclosed (c.needsParentheses around) text :: texts

end

/-- A direction. -/
def directionText (descending : Bool) : String := if descending then " DESC" else " ASC"

/-- The text of a term of the order. -/
def OrderTerm.text (names : Names) : OrderTerm → StateM Naming String
  | .presence c descending => do
    let zero ← Naming.parameter "param" (.int 0)
    let one ← Naming.parameter "param" (.int 1)
    return "CASE WHEN (" ++ c.text names ++ " IS NULL) THEN " ++ zero ++ " ELSE " ++ one ++ " END"
      ++ directionText descending
  | .value c descending => return c.text names ++ directionText descending

/-- A statement as it is sent: its text and its parameters. -/
structure Written where
  text : String
  parameters : List (String × Value)
  deriving Repr, Inhabited

/-- Writes something with names of its own. -/
def Written.of (x : StateM Naming String) : Written :=
  let (text, naming) := x.run Naming.start
  ⟨text, naming.parameters⟩

/-- The text of a statement. -/
def Statement.text (s : Statement) : StateM Naming String := do
  let tables : Names := [(.root, s.root.text), (.selected, s.selectedTable.text)]
  let listed := (s.selected.map ColumnRef.occurrence).take 1
  let froms := listed ++ unlisted listed s.criteria
  let columns := s.selected.map (ColumnRef.text tables)
  let conditions ← Clause.texts tables tables froms (conditionRank s.criteria) s.criteria
  let order ← s.order.mapM (OrderTerm.text tables)
  return "SELECT " ++ ", ".intercalate columns
    ++ (if froms.isEmpty then "" else
      " \nFROM " ++ ", ".intercalate (froms.map fun o => (tables.lookup o).getD ""))
    ++ (if conditions.isEmpty then "" else " \nWHERE " ++ " AND ".intercalate conditions)
    ++ (if order.isEmpty then "" else " ORDER BY " ++ ", ".intercalate order)

/-- A statement as it is sent. -/
def Statement.written (s : Statement) : Written := Written.of s.text

/-- A clause on a table as it is written by itself. -/
def Clause.written (c : Clause) (root : TableDef) : Written :=
  let tables : Names := [(.root, root.text)]
  Written.of (c.text tables tables [])

end RelationalSearch.Sql
