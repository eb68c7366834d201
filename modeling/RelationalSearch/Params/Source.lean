import RelationalSearch.Params.Bracket
import RelationalSearch.Params.QueryString

/-!
# Where parameters come from

A search can be given a value, a query string, or objects that hand out pairs in
one way or another. `Source.toBag` brings all of them into a bag, or says why
not; `Source.searchInput` also takes a bare value, which becomes a broad search.
-/

namespace RelationalSearch

/-- Something that parameters can be read from. -/
inductive Source where
  /-- A value. -/
  | value (v : Value)
  /-- A query string. -/
  | query (text : String)
  /-- The raw query string of a connection. -/
  | connection (text : String)
  /-- Keys and values that may repeat, as a query has them. -/
  | pairs (pairs : List (Value × Value))
  /-- A stream of entries, each of which should be a pair with a key of its own. -/
  | items (items : List Value)
  /-- A foreign bag that is asked for its keys. -/
  | foreign (entries : List (Value × Value))
  deriving Repr, Inhabited

namespace Bag

/-! ### Entries given as pairs -/

/-- The members of a value that is run through: the items of a list, the
characters of a text, the octets of an octet string, the keys of a table. -/
def members? : Value → Option (List Value)
  | .list items => some items
  | .tuple items => some items
  | .str s => some (s.toList.map fun c => .str (String.singleton c))
  | .bytes octets => some (octets.map fun b => .int b.toNat)
  | .map entries => some (entries.map Prod.fst)
  | .bag entries => some (entries.map fun e => .str e.1)
  | _ => none

/-- Adds one entry; with `merge` the values of a repeated key collect into a
list, without it a repeated key is refused. -/
def putPair (merge : Bool) (table : List (Value × Value)) (pair : Value) :
    Except Failure (List (Value × Value)) :=
  match members? pair with
  | none => .error (.fault .wrongKind)
  | some [key, value] =>
    if !key.isKey then .error (.fault .wrongKind)
    else match Value.lookup table key with
      | none => .ok (table ++ [(key, value)])
      | some current =>
        if merge then .ok (Value.put table key (current.joined value))
        else .error (.refused (.duplicateKey key.shown))
  | some _ => .error (.refused .notPair)

/-- The bag of a sequence of pairs. -/
def ofPairs (pairs : List Value) (merge : Bool) : Except Failure Bag := do
  let table ← pairs.foldlM (putPair merge) []
  (ofTable table).mapError .refused

/-- The bag of the fields of a query whose keys may be of any kind; a key that is
no text has no brackets to look for. -/
def ofFieldPairs (pairs : List (Value × Value)) : Except Failure Bag := do
  let entries ← pairs.foldlM
    (fun entries p =>
      match p.1 with
      | .str key => (putField entries key p.2).mapError .refused
      | _ => .error (.fault .wrongKind))
    []
  (ofRawEntries entries).mapError .refused

end Bag

/-! ### Sources -/

namespace Source

/-- The bag of a value. -/
def bagOfValue : Value → Except Failure Bag
  | .bag entries => .ok (Bag.ofEntries entries)
  | .null => .ok Bag.empty
  | .map entries => (Bag.ofTable entries).mapError .refused
  | .list [] => .ok Bag.empty
  | .tuple [] => .ok Bag.empty
  | .list _ => .error (.refused .positional)
  | .tuple _ => .error (.refused .positional)
  | v => .error (.refused (.notMapping v.kindName))

/-- The bag of a query's fields. -/
def bagOfFields (fields : List (String × String)) : Except Failure Bag :=
  (Bag.ofQueryPairs (fields.map fun f => (f.1, .str f.2))).mapError .refused

/-- The bag of a source. -/
def toBag : Source → Except Failure Bag
  | value v => bagOfValue v
  | query text => bagOfFields (QueryString.fields text)
  | connection text => bagOfFields (QueryString.rawFields text)
  | pairs ps => Bag.ofFieldPairs ps
  | items ps => Bag.ofPairs ps false
  | foreign entries => (Bag.ofTable entries).mapError .refused

/-- The bag of a broad search for one value. -/
def broad (broadKey : String) (v : Value) : Except Failure Bag :=
  (Bag.ofRawEntries [(broadKey, v)]).mapError .refused

/-- The bag of a search: a bare scalar is searched for broadly, and so is each
item of a list. -/
def searchInput (broadKey : String) : Source → Except Failure Bag
  | value (.list vs) => broad broadKey (.list vs)
  | value (.tuple vs) => broad broadKey (.list vs)
  | value v => if v.isScalar then broad broadKey v else bagOfValue v
  | source => source.toBag

end Source

end RelationalSearch
