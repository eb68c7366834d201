import RelationalSearch.Sql.Metadata
import RelationalSearch.Text.CaseMapping
import RelationalSearch.Value

/-!
# Names in a statement

A name is written as it is when it is a plain word: small letters, digits,
underscores and dollar signs, not beginning with a digit or dollar sign, and no
word of the language. All other names are quoted.

Parameters and the occurrences of tables get names of their own, made of a stem
and a number: the numbers of each stem count from one in the order in which the
statement is written. The values of the parameters are collected by the way.
-/

namespace RelationalSearch.Sql

/-! ### Quoting -/

/-- The words of the language that cannot be names. -/
def reservedWords : List String :=
  ["all", "analyse", "analyze", "and", "any", "array", "as", "asc", "asymmetric",
   "authorization", "between", "binary", "both", "case", "cast", "check", "collate", "column",
   "constraint", "create", "cross", "current_date", "current_role", "current_time",
   "current_timestamp", "current_user", "default", "deferrable", "desc", "distinct", "do",
   "else", "end", "except", "false", "for", "foreign", "freeze", "from", "full", "grant",
   "group", "having", "ilike", "in", "initially", "inner", "intersect", "into", "is", "isnull",
   "join", "leading", "left", "like", "limit", "localtime", "localtimestamp", "natural", "new",
   "not", "notnull", "null", "off", "offset", "old", "on", "only", "or", "order", "outer",
   "overlaps", "placing", "primary", "references", "right", "select", "session_user", "set",
   "similar", "some", "symmetric", "table", "then", "to", "trailing", "true", "union", "unique",
   "user", "using", "verbose", "when", "where"]

/-- Whether a character can stand in a name without quotes: letters, digits, an
underscore, a dollar sign, and the two letters that differ from ASCII letters in
case alone. -/
def isPlainNameChar (c : Char) : Bool :=
  c.isAlphanum || c == '_' || c == '$' || c == 'ı' || c == 'ſ'

/-- Whether a name has to be quoted. -/
def needsQuotes (name : String) : Bool :=
  let small := Text.toSmall name
  match name.toList with
  | [] => true
  | c :: _ =>
    reservedWords.contains small || c.isDigit || c == '$' || !name.toList.all isPlainNameChar
      || small != name

/-- A name as a statement has it. -/
def quotedName (name : String) : String :=
  if needsQuotes name then
    String.ofList ('"' :: (name.toList.flatMap fun c => if c == '"' then ['"', '"'] else [c])
      ++ ['"'])
  else name

/-- The name of a table with its schema, as a statement has it. -/
def TableDef.text (t : TableDef) : String :=
  match t.schema with
  | some s => quotedName s ++ "." ++ quotedName t.name
  | none => quotedName t.name

/-! ### Stems -/

/-- Whether a character has no place in a name that is made. -/
def isStemGap (c : Char) : Bool := c == '%' || c == '(' || c == ')' || c == ' ' || c == '$'

/-- The characters of a stem: each run of those without a place becomes an
underscore. -/
def stemChars : (inGap : Bool) → List Char → List Char
  | _, [] => []
  | inGap, c :: rest =>
    if isStemGap c then (if inGap then [] else ['_']) ++ stemChars true rest
    else c :: stemChars false rest

/-- The stem of an occurrence of a table. -/
def tableStem (name : String) : String := String.ofList (stemChars false name.toList)

/-- The stem of a parameter for a column: no underscores at its ends. -/
def parameterStem (column : String) : String :=
  let cs := (stemChars false column.toList).dropWhile (· == '_')
  String.ofList (cs.reverse.dropWhile (· == '_')).reverse

/-- The name of a parameter without the signs that have a meaning of their own in
front of names. -/
def parameterName (name : String) : String :=
  String.ofList (name.toList.map fun c =>
    if c == ':' then 'C' else if c == '.' || c == '[' || c == ']' then '_' else c)

/-! ### Numbering -/

/-- The numbers given so far, and the parameters with their values. -/
structure Naming where
  numbers : List (String × Nat)
  parameters : List (String × Value)
  deriving Repr, Inhabited

namespace Naming

/-- No names so far. -/
def start : Naming := ⟨[], []⟩

/-- Makes a name of a stem. -/
def next (stem : String) : StateM Naming String := fun n =>
  let k := (n.numbers.lookup stem).getD 0 + 1
  (stem ++ "_" ++ toString k,
    { n with numbers := (stem, k) :: n.numbers.filter fun e => e.1 != stem })

/-- Notes the value of a parameter and gives its sign. -/
def sign (name : String) (value : Value) : StateM Naming String := fun n =>
  (":" ++ name, { n with parameters := n.parameters ++ [(name, value)] })

/-- Makes a parameter of a value. -/
def parameter (stem : String) (value : Value) : StateM Naming String := do
  let name ← next stem
  sign (parameterName name) value

/-- Makes one parameter for each of several values. -/
def parameterList (stem : String) (values : List Value) : StateM Naming (List String) := do
  let name ← next stem
  values.zipIdx.mapM fun v =>
    sign (parameterName name ++ "_" ++ toString (v.2 + 1)) v.1

end Naming

end RelationalSearch.Sql
