import RelationalSearch.Params.Bag

/-!
# Keys with brackets

`tag[]` marks an item of the list `tag`, and `sort[name]` the entry `name` of the
table `sort`. Every other key is plain. Repeated items collect into a list in
the order of their arrival; `Bag.ofQueryPairs` folds a whole query this way.
-/

namespace RelationalSearch

/-- What a key of a query says. -/
inductive KeyForm where
  /-- A parameter. -/
  | plain (key : String)
  /-- An item of a list. -/
  | item (key : String)
  /-- An entry of a table. -/
  | entry (key sub : String)
  deriving DecidableEq, Repr

namespace KeyForm

/-- Whether a character is a square bracket. -/
def isBracket (c : Char) : Bool := c == '[' || c == ']'

/-- The parts of `key[sub]`: neither holds a bracket and the key is not empty. A
single line feed after the closing bracket is overlooked. -/
def splitBracketed? (cs : List Char) : Option (String × String) :=
  let key := cs.takeWhile fun c => !isBracket c
  match cs.dropWhile fun c => !isBracket c with
  | '[' :: rest =>
    let sub := rest.takeWhile fun c => !isBracket c
    let tail := rest.dropWhile fun c => !isBracket c
    if !key.isEmpty && (tail == [']'] || tail == [']', '\n']) then
      some (String.ofList key, String.ofList sub)
    else none
  | _ => none

/-- Reads a key. -/
def read (key : String) : KeyForm :=
  match splitBracketed? key.toList with
  | none => plain key
  | some (name, sub) => if sub.isEmpty then item name else entry name sub

end KeyForm

/-- A list with one more item; a single value becomes a list first. -/
def Value.joined (current value : Value) : Value :=
  match current with
  | .list items => .list (items ++ [value])
  | v => .list [v, value]

namespace Bag

/-- Adds a plain parameter to what has been read so far. -/
def putPlain (entries : List (String × Value)) (key : String) (value : Value) :
    Except SearchError (List (String × Value)) :=
  match entries.lookup key with
  | none => .ok (putEntry entries key value)
  | some (.map _) => .error (.mixesPlainAndKeyed key)
  | some current => .ok (putEntry entries key (current.joined value))

/-- Adds an item of a list. -/
def putItem (entries : List (String × Value)) (key : String) (value : Value) :
    Except SearchError (List (String × Value)) :=
  match entries.lookup key with
  | none | some .null => .ok (putEntry entries key (.list [value]))
  | some (.map _) => .error (.mixesListAndKeyed key)
  | some current => .ok (putEntry entries key (current.joined value))

/-- Adds an entry of a table. -/
def putSubEntry (entries : List (String × Value)) (key sub : String) (value : Value) :
    Except SearchError (List (String × Value)) :=
  match (entries.lookup key).getD (.map []) with
  | .map table =>
    if (Value.lookup table (.str sub)).isSome then .error (.duplicateKey (key ++ "[" ++ sub ++ "]"))
    else .ok (putEntry entries key (.map (table ++ [(.str sub, value)])))
  | _ => .error (.mixesListAndKeyed key)

/-- Adds one field of a query. -/
def putField (entries : List (String × Value)) (key : String) (value : Value) :
    Except SearchError (List (String × Value)) :=
  match KeyForm.read key with
  | .plain key => putPlain entries key value
  | .item key => putItem entries key value
  | .entry key sub => putSubEntry entries key sub value

/-- The bag of the fields of a query. -/
def ofQueryPairs (pairs : List (String × Value)) : Except SearchError Bag :=
  (pairs.foldlM (fun entries p => putField entries p.1 p.2) []).bind ofRawEntries

end Bag

end RelationalSearch
