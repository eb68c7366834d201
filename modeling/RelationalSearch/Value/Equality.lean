import RelationalSearch.Value

/-!
# Equality of request values

Numbers are compared by what they count: one, a floating one and a true truth
value are equal. Lists are equal item by item, tables entry by entry in any
order, and a bag equals a table with the same entries. Where a value serves as a
key, two keys that are equal in this sense are one key; lists and tables cannot
be keys.
-/

namespace RelationalSearch.Value

/-- The whole number that a truth value or a whole number counts. -/
def count? : Value → Option Int
  | bool b => some (if b then 1 else 0)
  | int n => some n
  | _ => none

mutual

/-- Equality of values. -/
def equals : Value → Value → Bool
  | null, null => true
  | str s, str t => s == t
  | bytes a, bytes b => a == b
  | date a, date b => a == b
  | datetime a, datetime b => a.equals b
  | float x, float y => x.equals y
  | float x, bool b => x.equalsInt (if b then 1 else 0)
  | float x, int n => x.equalsInt n
  | bool b, float y => y.equalsInt (if b then 1 else 0)
  | int n, float y => y.equalsInt n
  | bool a, bool b => a == b
  | bool a, int n => (if a then 1 else 0) == n
  | int n, bool b => n == (if b then 1 else 0)
  | int n, int m => n == m
  | list xs, list ys => allEqual xs ys
  | tuple xs, tuple ys => allEqual xs ys
  | map xs, v => match v.mapping? with
    | some ys => xs.length == ys.length && allFound xs ys
    | none => false
  | bag xs, v => match v.mapping? with
    | some ys => xs.length == ys.length && allNamed xs ys
    | none => false
  | _, _ => false

/-- Equality of lists. -/
def allEqual : List Value → List Value → Bool
  | [], [] => true
  | x :: xs, y :: ys => equals x y && allEqual xs ys
  | _, _ => false

/-- Whether every entry has an equal one in a table. -/
def allFound : List (Value × Value) → List (Value × Value) → Bool
  | [], _ => true
  | (k, v) :: rest, ys =>
    (ys.any fun e => equals k e.1 && equals v e.2) && allFound rest ys

/-- Whether every named entry has an equal one in a table. -/
def allNamed : List (String × Value) → List (Value × Value) → Bool
  | [], _ => true
  | (k, v) :: rest, ys =>
    (ys.any fun e => (match e.1 with | str s => s == k | _ => false) && equals v e.2)
      && allNamed rest ys

end

mutual

/-- Whether a value can be a key. -/
def isKey : Value → Bool
  | list _ | map _ | bag _ => false
  | tuple items => allKeys items
  | _ => true

/-- Whether all of a list's items can be keys. -/
def allKeys : List Value → Bool
  | [] => true
  | x :: xs => isKey x && allKeys xs

end

/-- The value stored under a key. -/
def lookup (entries : List (Value × Value)) (key : Value) : Option Value :=
  (entries.find? fun e => equals e.1 key).map Prod.snd

/-- Stores a value under a key: a known key keeps its place and its spelling, a
new one goes last. -/
def put : List (Value × Value) → Value → Value → List (Value × Value)
  | [], key, value => [(key, value)]
  | e :: rest, key, value =>
    if equals e.1 key then (e.1, value) :: rest else e :: put rest key value

/-- The table of a list of entries. -/
def ofEntries (entries : List (Value × Value)) : List (Value × Value) :=
  entries.foldl (fun table e => put table e.1 e.2) []

end RelationalSearch.Value
