import RelationalSearch.Proofs.Evaluation
import RelationalSearch.Proofs.Outcome
import RelationalSearch.Proofs.Translation

/-!
# Where rows without a value come in an order

Databases differ in where they put rows without a value in a column that they order by, and
some put them elsewhere when the order is descending. A statement leaves this open for no
column: in front of each column it orders by whether there is a value at all
(`RelationalSearch.Sql.orderTerms`). This is a number, so the database has no choice, and
when it comes to the column itself, both rows have a value or neither has.

The main statement is `RelationalSearch.Sql.termsOrder_eq_rowOrder`: whatever the database
does by itself, the terms of some sort keys compare two rows as the first key does on which
they differ, and a row without a value comes before all others or after them by this key
alone (`RelationalSearch.SortKey.cellOrder`). So it is for the order of every statement
that a search is applied to (`RelationalSearch.Sql.Statement.termsOrder_of_build`).
-/

namespace RelationalSearch

/-! ### What sort keys ask for -/

namespace SortKey

/-- **How two cells compare by a sort key**: one without a value comes first or last, as
the key says, in both directions; two values compare in its direction. -/
def cellOrder {α : Type} (compare : α → α → Ordering) (key : SortKey) :
    Option α → Option α → Ordering
  | none, none => .eq
  | none, some _ => if key.nullsFirst then .lt else .gt
  | some _, none => if key.nullsFirst then .gt else .lt
  | some s, some t => if key.descending then (compare s t).swap else compare s t

end SortKey

namespace Sql

/-- **How two rows compare by sort keys**: by the first key on which they differ. -/
def rowOrder (db : DatabaseState) (compare : String → db.Stored → db.Stored → Ordering)
    (keys : List SortKey) (row other : db.Row) : Ordering :=
  ((keys.map fun key => key.cellOrder (compare key.column) (db.cell row key.column)
    (db.cell other key.column)).find? (· ≠ .eq)).getD .eq

/-- A key counts when those before it do not tell the rows apart. -/
theorem rowOrder_cons (db : DatabaseState)
    (compare : String → db.Stored → db.Stored → Ordering) (key : SortKey) (keys : List SortKey)
    (row other : db.Row) :
    rowOrder db compare (key :: keys) row other =
      (key.cellOrder (compare key.column) (db.cell row key.column)
        (db.cell other key.column)).then (rowOrder db compare keys row other) := by
  rw [rowOrder, List.map_cons, List.find?_cons]
  cases key.cellOrder (compare key.column) (db.cell row key.column)
    (db.cell other key.column) <;> rfl

/-! ### What a database does -/

/-- **How a database compares two cells** in a direction. Where it puts one without a value
is its own choice, and can depend on the direction. -/
def nativeOrder {α : Type} (compare : α → α → Ordering) (nullsFirst : Bool → Bool)
    (descending : Bool) : Option α → Option α → Ordering
  | none, none => .eq
  | none, some _ => if nullsFirst descending then .lt else .gt
  | some _, none => if nullsFirst descending then .gt else .lt
  | some s, some t => if descending then (compare s t).swap else compare s t

section Terms

variable {db : DatabaseState} (compare : String → db.Stored → db.Stored → Ordering)
  (nullsFirst : Bool → Bool)

/-- Zero for a cell without a value, and one for any other. -/
def presence {α : Type} (cell : Option α) : Nat := if cell.isNone then 0 else 1

/-- How a database compares two rows by a term of an order. -/
def termOrder (a b : db.Frame) : OrderTerm → Ordering
  | .presence c descending =>
    nativeOrder (Ord.compare : Nat → Nat → Ordering) nullsFirst descending
      (some (presence (a.get c))) (some (presence (b.get c)))
  | .value c descending =>
    nativeOrder (compare c.column) nullsFirst descending (a.get c) (b.get c)

/-- **How a database compares two rows by several terms**: a term counts when those before
it do not tell the rows apart. -/
def termsOrder (terms : List OrderTerm) (a b : db.Frame) : Ordering :=
  terms.foldr (fun term rest => (termOrder compare nullsFirst a b term).then rest) .eq

/-- Rows in the order of several terms. -/
def InOrder (terms : List OrderTerm) (rows : List db.Frame) : Prop :=
  rows.Pairwise fun a b => termsOrder compare nullsFirst terms a b ≠ .gt

variable {compare nullsFirst}

theorem termsOrder_append (terms terms' : List OrderTerm) (a b : db.Frame) :
    termsOrder compare nullsFirst (terms ++ terms') a b =
      (termsOrder compare nullsFirst terms a b).then
        (termsOrder compare nullsFirst terms' a b) := by
  induction terms with
  | nil => rfl
  | cons term terms ih =>
    rw [List.cons_append, termsOrder, List.foldr_cons, ← termsOrder, ih, ← Ordering.then_assoc]
    rfl

/-! ### The terms of a sort key -/

/-- The terms of a sort key on a source that has its column. -/
def keyTerms (source : Source) (key : SortKey) : List OrderTerm :=
  [.presence ⟨source.occurrence, key.column⟩ !key.nullsFirst,
    .value ⟨source.occurrence, key.column⟩ key.descending]

theorem orderTerms_eq_ok_iff {source : Source} {key : SortKey} {terms : List OrderTerm} :
    orderTerms source key = .ok terms ↔
      key.column ∈ source.table.columns ∧ terms = keyTerms source key := by
  have hcolumn : source.column key.column =
      if source.table.columns.contains key.column then .ok ⟨source.occurrence, key.column⟩
      else .error (.fault .missingKey) := rfl
  rw [orderTerms, hcolumn]
  split
  next hmem =>
    rw [and_iff_right (List.contains_iff_mem.mp hmem)]
    exact ⟨fun h => (Except.ok.inj h).symm, fun h => congrArg Except.ok h.symm⟩
  next hmem =>
    refine iff_of_false (fun h => ?_) fun h => hmem (List.contains_iff_mem.mpr h.1)
    cases h

/-- Terms are made of all sort keys or of none. -/
theorem mapM_orderTerms_eq_ok_iff {source : Source} {keys : List SortKey}
    {terms : List (List OrderTerm)} :
    keys.mapM (orderTerms source) = .ok terms ↔
      (∀ key ∈ keys, key.column ∈ source.table.columns) ∧
        terms = keys.map (keyTerms source) := by
  induction keys generalizing terms with
  | nil =>
    rw [List.mapM_nil]
    refine ⟨fun h => ⟨fun _ hm => absurd hm List.not_mem_nil, ?_⟩, fun h => ?_⟩
    · cases h
      rfl
    · rw [h.2]
      rfl
  | cons key keys ih =>
    rw [List.mapM_cons, List.forall_mem_cons, List.map_cons]
    constructor
    · intro h
      obtain ⟨first, hfirst, h⟩ := exists_of_bind_ok h
      obtain ⟨rest, hrest, h⟩ := exists_of_bind_ok h
      obtain ⟨hcolumn, rfl⟩ := orderTerms_eq_ok_iff.mp hfirst
      obtain ⟨hcolumns, rfl⟩ := ih.mp hrest
      cases h
      exact ⟨⟨hcolumn, hcolumns⟩, rfl⟩
    · rintro ⟨⟨hcolumn, hcolumns⟩, rfl⟩
      rw [orderTerms_eq_ok_iff.mpr ⟨hcolumn, rfl⟩, ih.mpr ⟨hcolumns, rfl⟩]
      rfl

/-- **The terms of one sort key compare as the key does**: whether there is a value decides
before the database has to put a row without one anywhere. -/
theorem termsOrder_keyTerms (source : Source) (key : SortKey) (a b : db.Frame) :
    termsOrder compare nullsFirst (keyTerms source key) a b =
      key.cellOrder (compare key.column) (db.cell (a source.occurrence) key.column)
        (db.cell (b source.occurrence) key.column) := by
  obtain ⟨column, descending, first⟩ := key
  simp only [termsOrder, keyTerms, List.foldr_cons, List.foldr_nil, termOrder,
    DatabaseState.Frame.get, Ordering.then_eq]
  cases db.cell (a source.occurrence) column with
  | none =>
    cases db.cell (b source.occurrence) column with
    | none => cases first <;> rfl
    | some t => cases first <;> rfl
  | some s =>
    cases db.cell (b source.occurrence) column with
    | none => cases first <;> rfl
    | some t => cases first <;> rfl

theorem termsOrder_flatten (source : Source) (keys : List SortKey) (a b : db.Frame) :
    termsOrder compare nullsFirst (keys.map (keyTerms source)).flatten a b =
      rowOrder db compare keys (a source.occurrence) (b source.occurrence) := by
  induction keys with
  | nil => rfl
  | cons key keys ih =>
    rw [List.map_cons, List.flatten_cons, termsOrder_append, ih, termsOrder_keyTerms,
      rowOrder_cons]

end Terms

/-- **Rows without a value come where the sort keys say.** Terms are made of sort keys
exactly when the source has the column of each. Then, whatever a database does by itself
with cells that have no value, ascending or descending, the terms compare two rows as the
keys do; so rows that are in order for one database are in order for any other that
compares values alike. -/
theorem termsOrder_eq_rowOrder (source : Source) (keys : List SortKey) :
    ((∃ terms, keys.mapM (orderTerms source) = .ok terms) ↔
        ∀ key ∈ keys, key.column ∈ source.table.columns) ∧
      ∀ terms, keys.mapM (orderTerms source) = .ok terms →
        ∀ (db : DatabaseState) (compare : String → db.Stored → db.Stored → Ordering)
          (nullsFirst : Bool → Bool),
          (∀ a b : db.Frame, termsOrder compare nullsFirst terms.flatten a b =
            rowOrder db compare keys (a source.occurrence) (b source.occurrence)) ∧
          ∀ (nullsFirst' : Bool → Bool) (rows : List db.Frame),
            InOrder compare nullsFirst terms.flatten rows ↔
              InOrder compare nullsFirst' terms.flatten rows := by
  refine ⟨⟨?_, fun h => ⟨_, mapM_orderTerms_eq_ok_iff.mpr ⟨h, rfl⟩⟩⟩, ?_⟩
  · rintro ⟨terms, hterms⟩
    exact (mapM_orderTerms_eq_ok_iff.mp hterms).1
  · intro terms hterms db compare nullsFirst
    obtain ⟨-, rfl⟩ := mapM_orderTerms_eq_ok_iff.mp hterms
    refine ⟨termsOrder_flatten source keys, fun nullsFirst' rows => ?_⟩
    simp only [InOrder, termsOrder_flatten]

/-- Persons by name, those without one first, and then by the parent, descending. -/
theorem termsOrder_eq_rowOrder_kinship :
    ∃ terms, [SortKey.mk "name" false true, ⟨"parent_id", true, false⟩].mapM
        (orderTerms ⟨.root, Kinship.persons⟩) = .ok terms ∧
      ∀ (db : DatabaseState) (compare : String → db.Stored → db.Stored → Ordering)
        (nullsFirst : Bool → Bool) (a b : db.Frame),
        termsOrder compare nullsFirst terms.flatten a b =
          rowOrder db compare [⟨"name", false, true⟩, ⟨"parent_id", true, false⟩] (a .root)
            (b .root) := by
  obtain ⟨hterms, horder⟩ := termsOrder_eq_rowOrder ⟨.root, Kinship.persons⟩
    [⟨"name", false, true⟩, ⟨"parent_id", true, false⟩]
  obtain ⟨terms, h⟩ := hterms.mpr (by decide)
  exact ⟨terms, h, fun db compare nullsFirst => (horder terms h db compare nullsFirst).1⟩

/-- A statement that a search is applied to has the terms of the search's sort keys. -/
theorem Statement.order_of_build {metadata : Metadata} {search : CompiledSearch}
    {selection : Option Selection} {statement : Statement}
    (h : Statement.build metadata search selection = .ok statement) :
    ∃ table terms, search.sort.mapM (orderTerms ⟨.root, table⟩) = .ok terms ∧
      statement.order = terms.flatten := by
  obtain ⟨table, -, h⟩ := exists_of_bind_ok h
  obtain ⟨condition, -, h⟩ := exists_of_bind_ok h
  dsimp only at h
  -- With a range of time and without one, the order is made in the same way.
  split at h
  all_goals
    obtain ⟨time, -, h⟩ := exists_of_bind_ok h
    obtain ⟨terms, hterms, h⟩ := exists_of_bind_ok h
    cases h
    exact ⟨table, terms, hterms, rfl⟩

/-- **The order of a statement** that a search is applied to is the order that the search
asks for, whatever the database does by itself. -/
theorem Statement.termsOrder_of_build {metadata : Metadata} {search : CompiledSearch}
    {selection : Option Selection} {statement : Statement}
    (h : Statement.build metadata search selection = .ok statement) {db : DatabaseState}
    (compare : String → db.Stored → db.Stored → Ordering) (nullsFirst : Bool → Bool)
    (a b : db.Frame) :
    termsOrder compare nullsFirst statement.order a b =
      rowOrder db compare search.sort (a .root) (b .root) := by
  obtain ⟨table, terms, hterms, horder⟩ := order_of_build h
  obtain ⟨-, rfl⟩ := mapM_orderTerms_eq_ok_iff.mp hterms
  rw [horder]
  exact termsOrder_flatten ⟨.root, table⟩ search.sort a b

end Sql

end RelationalSearch
