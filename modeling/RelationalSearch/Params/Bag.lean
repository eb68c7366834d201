import RelationalSearch.Error
import RelationalSearch.Text.Blank
import RelationalSearch.Value.Equality
import RelationalSearch.Value.Text

/-!
# Parameter bags

A bag is what a search reads: parameters in the order of their arrival, every
key once. The type carries the uniqueness of its keys, and each operation is
described by what it does to the list of keys or to look-up.

Values enter a bag through `Value.cleaned`: lists of either kind become plain
lists, at any depth of lists; tables are kept as they are; values that no search
can use are refused by the name of their kind.
-/

namespace RelationalSearch

namespace Value

/-- Empty lists, empty tables and blank texts count as absent. -/
def isBlank : Value → Bool
  | str s => Text.isBlank s
  | list items => items.isEmpty
  | tuple items => items.isEmpty
  | map entries => entries.isEmpty
  | bag entries => entries.isEmpty
  | _ => false

/-- Whether a value switches something on: neither absent nor false. -/
def isFilled : Value → Bool
  | null => false
  | bool b => b
  | v => !v.isBlank

/-- The entries of a bag as those of a table. -/
def namedEntries (entries : List (String × Value)) : List (Value × Value) :=
  entries.map fun e => (str e.1, e.2)

mutual

/-- The form of a value inside a bag, or its refusal. -/
def cleaned (key : String) : Value → Except SearchError Value
  | null => .ok null
  | bool b => .ok (bool b)
  | int n => .ok (int n)
  | float x => .ok (float x)
  | str s => .ok (str s)
  | list items => (cleanedItems key items).map list
  | tuple items => (cleanedItems key items).map list
  | map entries => .ok (map entries)
  | bag entries => .ok (map (namedEntries entries))
  | v => .error (.unsupportedValue key v.kindName)

/-- The forms of a list's items inside a bag. -/
def cleanedItems (key : String) : List Value → Except SearchError (List Value)
  | [] => .ok []
  | x :: xs =>
    match cleaned key x with
    | .ok y => (cleanedItems key xs).map (y :: ·)
    | .error e => .error e

end

end Value

/-! ### Entries under unique keys -/

/-- Stores a value under a key: a known key keeps its place, a new one goes
last. -/
def putEntry : List (String × Value) → String → Value → List (String × Value)
  | [], key, value => [(key, value)]
  | e :: rest, key, value =>
    if e.1 = key then (key, value) :: rest else e :: putEntry rest key value

theorem mem_keys_putEntry {entries : List (String × Value)} {key k : String} {value : Value} :
    k ∈ (putEntry entries key value).map Prod.fst ↔ k = key ∨ k ∈ entries.map Prod.fst := by
  induction entries with
  | nil => simp [putEntry]
  | cons e rest ih =>
    by_cases h : e.1 = key
    · simp [putEntry, h]
    · simp [putEntry, h, ih, or_left_comm]

theorem nodup_putEntry {entries : List (String × Value)} {key : String} {value : Value}
    (h : (entries.map Prod.fst).Nodup) : ((putEntry entries key value).map Prod.fst).Nodup := by
  induction entries with
  | nil => simp [putEntry]
  | cons e rest ih =>
    simp only [List.map_cons, List.nodup_cons] at h
    by_cases he : e.1 = key
    · simp only [putEntry, he, if_true, List.map_cons, List.nodup_cons]
      exact ⟨he ▸ h.1, h.2⟩
    · simp only [putEntry, he, if_false, List.map_cons, List.nodup_cons]
      refine ⟨fun hm => ?_, ih h.2⟩
      rcases mem_keys_putEntry.1 hm with h' | h'
      · exact he h'
      · exact h.1 h'

/-- Parameters in the order of their arrival, every key once. -/
structure Bag where
  entries : List (String × Value)
  nodup : (entries.map Prod.fst).Nodup

namespace Bag

@[ext] theorem ext {a b : Bag} (h : a.entries = b.entries) : a = b := by
  cases a; cases b; cases h; rfl

instance : Repr Bag := ⟨fun b n => reprPrec b.entries n⟩

/-- The bag without parameters. -/
def empty : Bag := ⟨[], List.nodup_nil⟩

instance : Inhabited Bag := ⟨empty⟩

/-- Stores a value under a key; a known key keeps its place. -/
def put (b : Bag) (key : String) (value : Value) : Bag :=
  ⟨putEntry b.entries key value, nodup_putEntry b.nodup⟩

/-- The bag of a list of entries: of several entries under one key, the place is
the first one's and the value the last one's. -/
def ofEntries (entries : List (String × Value)) : Bag :=
  entries.foldl (fun b e => b.put e.1 e.2) empty

/-- The parameters that satisfy a condition. -/
def filter (b : Bag) (p : String → Value → Bool) : Bag :=
  ⟨b.entries.filter fun e => p e.1 e.2, by
    have := b.nodup
    exact List.Nodup.sublist (List.Sublist.map _ List.filter_sublist) this⟩

/-! ### Look-up -/

/-- The keys, in order. -/
def keys (b : Bag) : List String := b.entries.map Prod.fst

/-- The number of parameters. -/
def size (b : Bag) : Nat := b.entries.length

/-- Whether the bag has no parameter. -/
def isEmpty (b : Bag) : Bool := b.entries.isEmpty

/-- The value of a parameter. -/
def get? (b : Bag) (key : String) : Option Value := b.entries.lookup key

/-- The value of a parameter, or none. -/
def get (b : Bag) (key : String) : Value := (b.get? key).getD .null

/-- Whether a parameter is present. -/
def has (b : Bag) (key : String) : Bool := b.entries.any fun e => e.1 == key

/-- Whether a parameter is present and switches something on. -/
def filled (b : Bag) (key : String) : Bool :=
  match b.get? key with
  | some v => v.isFilled
  | none => false

/-- Whether the parameters are exactly those named. -/
def only (b : Bag) (keys : List String) : Bool :=
  b.keys.all keys.contains && keys.all b.keys.contains

/-- The bag without the named parameters. -/
def without (b : Bag) (keys : List String) : Bag := b.filter fun k _ => !keys.contains k

/-- The bag without blank parameters. -/
def nonBlank (b : Bag) : Bag := b.filter fun _ v => !v.isBlank

/-- The bag as a value. -/
def toValue (b : Bag) : Value := .bag b.entries

/-- The bag as a table. -/
def toMap (b : Bag) : Value := .map (Value.namedEntries b.entries)

/-- The text of a bag. -/
def literal (b : Bag) : String := b.toValue.literal

/-- Whether a value is a table or a bag with the same parameters. -/
def equals (b : Bag) (v : Value) : Bool := b.toValue.equals v

/-! ### Bags of raw values -/

/-- The bag of named raw values: each is brought into its form inside a bag. -/
def ofRawEntries (entries : List (String × Value)) : Except SearchError Bag :=
  entries.foldlM (fun b e => (e.2.cleaned e.1).map (b.put e.1)) empty

/-- The bag of a raw table, whose keys must be texts. -/
def ofTable (entries : List (Value × Value)) : Except SearchError Bag :=
  entries.foldlM
    (fun b e =>
      match e.1 with
      | .str key => (e.2.cleaned key).map (b.put key)
      | k => .error (.keyNotText k.literal))
    empty

end Bag

end RelationalSearch
