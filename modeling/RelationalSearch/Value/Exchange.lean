import RelationalSearch.Error
import RelationalSearch.Text.Utf8
import RelationalSearch.Value.Equality
import RelationalSearch.Value.Text

/-!
# Values in data exchange

Data exchange knows no value, truth values, numbers, texts, lists, and tables
with texts as keys. Lists of either kind become lists, infinities and no number
become no value, dates and octets become texts. Octets that are no text, and
values of no known kind, cannot be exchanged.
-/

namespace RelationalSearch.Value

mutual

/-- A key of a table as text. -/
def exchangedKey : Value → Except Fault String
  | null => .ok "None"
  | bool b => .ok (if b then "true" else "false")
  | int n => .ok (toString n)
  | float x => .ok (if x.isFinite then x.text else "None")
  | str s => .ok s
  | bytes octets => (Text.decodeUtf8? octets).elim (.error .undecodable) .ok
  | date d => .ok d.written
  | datetime t => .ok t.exchange
  | tuple items => (exchangedKeys items).map (",".intercalate ·)
  | _ => .error .unwritable

/-- The members of a key that is a list. -/
def exchangedKeys : List Value → Except Fault (List String)
  | [] => .ok []
  | v :: rest => do
    let text ← exchangedKey v
    let texts ← exchangedKeys rest
    return text :: texts

end

mutual

/-- A value in data exchange. -/
def exchanged : Value → Except Fault Value
  | null => .ok null
  | bool b => .ok (bool b)
  | int n => .ok (int n)
  | float x => .ok (if x.isFinite then float x else null)
  | str s => .ok (str s)
  | list items => (exchangedItems items).map list
  | tuple items => (exchangedItems items).map list
  | map entries => (exchangedEntries entries).map fun es => map (ofEntries es)
  | bytes octets => (Text.decodeUtf8? octets).elim (.error .undecodable) fun s => .ok (str s)
  | date d => .ok (str d.written)
  | datetime t => .ok (str t.exchange)
  | _ => .error .unwritable

/-- The items of a list in data exchange. -/
def exchangedItems : List Value → Except Fault (List Value)
  | [] => .ok []
  | v :: rest => do
    let item ← exchanged v
    let items ← exchangedItems rest
    return item :: items

/-- The entries of a table in data exchange. -/
def exchangedEntries : List (Value × Value) → Except Fault (List (Value × Value))
  | [] => .ok []
  | (k, v) :: rest => do
    let key ← exchangedKey k
    let value ← exchanged v
    let entries ← exchangedEntries rest
    return (str key, value) :: entries

end

end RelationalSearch.Value
