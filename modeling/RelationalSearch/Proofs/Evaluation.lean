import Mathlib.Data.List.Basic
import Mathlib.Logic.Function.Basic
import RelationalSearch.Proofs.Meaning
import RelationalSearch.Sql.Build

/-!
# When a clause is true

A statement selects the rows for which its condition is true, and in a database
that is not the same as its not being false: a comparison with a cell that holds
no value is neither. The values of a condition are therefore three
(`RelationalSearch.Sql.Truth`), joined as the connectives of the language join
them, and only the existence of a row is never unknown.

A clause speaks of occurrences of tables, so it is evaluated on one row for each
occurrence, a `RelationalSearch.Sql.DatabaseState.Frame`. The existence of a row of
the target puts this row, and with an association table a row of it, in the place
of the occurrences that it brings in, and leaves all others as they are.

The same state read as a predicate reads it is
`RelationalSearch.Sql.DatabaseState.contents`, with
`RelationalSearch.Sql.DatabaseState.test` for the comparisons.
-/

namespace RelationalSearch.Sql

/-! ### Three truth values -/

/-- The value of a condition. -/
inductive Truth where
  | yes
  | no
  /-- A comparison with something that is not there. -/
  | unknown
  deriving DecidableEq, Repr

namespace Truth

/-- Both of two conditions: one that is false decides. -/
def and : Truth → Truth → Truth
  | yes, b => b
  | no, _ => no
  | unknown, no => no
  | unknown, _ => unknown

/-- One of two conditions: one that is true decides. -/
def or : Truth → Truth → Truth
  | yes, _ => yes
  | no, b => b
  | unknown, yes => yes
  | unknown, _ => unknown

open Classical in
/-- The value of a condition that holds or fails. -/
noncomputable def of (p : Prop) : Truth := if p then yes else no

theorem and_eq_yes {a b : Truth} : a.and b = yes ↔ a = yes ∧ b = yes := by
  cases a <;> cases b <;> decide

theorem or_eq_yes {a b : Truth} : a.or b = yes ↔ a = yes ∨ b = yes := by
  cases a <;> cases b <;> decide

theorem of_eq_yes {p : Prop} : of p = yes ↔ p := by
  rw [of]
  split
  next h => exact iff_of_true rfl h
  next h => exact iff_of_false (by decide) h

end Truth

/-! ### States of a database -/

/-- **A state of a database**: the rows of its tables, what their cells hold, and
how what they hold compares with operands and with each other. -/
structure DatabaseState where
  Row : Type
  /-- What a cell can hold. -/
  Stored : Type
  rows : TableDef → Row → Prop
  /-- What a cell of a row holds, if it holds anything. -/
  cell : Row → String → Option Stored
  equals : Stored → Value → Prop
  /-- Whether something matches a pattern. -/
  like : Stored → Value → Prop
  atLeast : Stored → Value → Prop
  atMost : Stored → Value → Prop
  /-- Whether two cells hold the same. -/
  same : Stored → Stored → Prop
  same_comm : ∀ s t, same s t → same t s

namespace DatabaseState

variable (db : DatabaseState)

/-- A row for each occurrence of a table. -/
abbrev Frame : Type := Occurrence → db.Row

variable {db}

/-- What the cell of a column holds. -/
def Frame.get (frame : db.Frame) (column : ColumnRef) : Option db.Stored :=
  db.cell (frame column.occurrence) column.column

/-- A frame with another row in one place. -/
def Frame.put (frame : db.Frame) (occurrence : Occurrence) (row : db.Row) : db.Frame :=
  Function.update frame occurrence row

@[simp] theorem Frame.put_self (frame : db.Frame) (occurrence : Occurrence) (row : db.Row) :
    frame.put occurrence row occurrence = row := Function.update_self ..

theorem Frame.put_of_ne (frame : db.Frame) {occurrence other : Occurrence} (row : db.Row)
    (h : other ≠ occurrence) : frame.put occurrence row other = frame other :=
  Function.update_of_ne h ..

/-! ### Comparisons -/

/-- What a cell holds, compared with an operand: neither true nor false when one of
them is not there. -/
noncomputable def compared (compare : db.Stored → Value → Prop) :
    Option db.Stored → Value → Truth
  | none, _ => .unknown
  | some _, .null => .unknown
  | some s, v => .of (compare s v)

/-- What two cells hold, compared with each other. -/
noncomputable def comparedCells : Option db.Stored → Option db.Stored → Truth
  | some s, some t => .of (db.same s t)
  | _, _ => .unknown

theorem compared_eq_yes {compare : db.Stored → Value → Prop} {cell : Option db.Stored}
    {v : Value} :
    compared compare cell v = .yes ↔ v ≠ .null ∧ ∃ s, cell = some s ∧ compare s v := by
  cases cell with
  | none => simp [compared]
  | some s => cases v <;> simp [compared, Truth.of_eq_yes]

theorem comparedCells_eq_yes {a b : Option db.Stored} :
    comparedCells a b = .yes ↔ ∃ s t, a = some s ∧ b = some t ∧ db.same s t := by
  cases a <;> cases b <;> simp [comparedCells, Truth.of_eq_yes]

theorem comparedCells_comm {a b : Option db.Stored} :
    comparedCells a b = .yes ↔ comparedCells b a = .yes := by
  rw [comparedCells_eq_yes, comparedCells_eq_yes]
  constructor
  · rintro ⟨s, t, ha, hb, h⟩
    exact ⟨t, s, hb, ha, db.same_comm s t h⟩
  · rintro ⟨t, s, hb, ha, h⟩
    exact ⟨s, t, ha, hb, db.same_comm t s h⟩

/-! ### Clauses -/

mutual

/-- **The value of a clause** on a row for each occurrence. -/
noncomputable def truth : Clause → db.Frame → Truth
  | .equals c v, frame => compared db.equals (frame.get c) v
  | .equalsTruth c b, frame => compared db.equals (frame.get c) (.bool b)
  | .like c v, frame => compared db.like (frame.get c) v
  | .atLeast c v, frame => compared db.atLeast (frame.get c) v
  | .atMost c v, frame => compared db.atMost (frame.get c) v
  | .between c low high, frame =>
    (compared db.atLeast (frame.get c) low).and (compared db.atMost (frame.get c) high)
  | .oneOf c values, frame =>
    values.foldr (fun v t => (compared db.equals (frame.get c) v).or t) .no
  | .isNull c, frame => .of (frame.get c = none)
  | .isPresent c, frame => .of (frame.get c ≠ none)
  | .same a b, frame => comparedCells (frame.get a) (frame.get b)
  | .conj clauses, frame => truthAll clauses frame
  | .disj clauses, frame => truthAny clauses frame
  | .existsRow depth target none criteria, frame =>
    .of (∃ row, db.rows target row ∧
      truthAll criteria (frame.put (.target depth) row) = .yes)
  | .existsRow depth target (some link) criteria, frame =>
    .of (∃ row between, db.rows target row ∧ db.rows link.table between ∧
      comparedCells
          (((frame.put (.target depth) row).put (.link depth) between).get link.column)
          (((frame.put (.target depth) row).put (.link depth) between).get link.targetColumn)
        = .yes ∧
      truthAll criteria ((frame.put (.target depth) row).put (.link depth) between) = .yes)

/-- The value of several clauses that are all asked for. -/
noncomputable def truthAll : List Clause → db.Frame → Truth
  | [], _ => .yes
  | c :: rest, frame => (truth c frame).and (truthAll rest frame)

/-- The value of several clauses that are alternatives. -/
noncomputable def truthAny : List Clause → db.Frame → Truth
  | [], _ => .no
  | c :: rest, frame => (truth c frame).or (truthAny rest frame)

end

section Values

variable {frame : db.Frame}

theorem truthAll_eq_yes {clauses : List Clause} :
    truthAll clauses frame = .yes ↔ ∀ c ∈ clauses, truth c frame = .yes := by
  induction clauses with
  | nil => exact iff_of_true rfl fun c hc => absurd hc List.not_mem_nil
  | cons c clauses ih => rw [truthAll, Truth.and_eq_yes, ih, List.forall_mem_cons]

theorem truthAny_eq_yes {clauses : List Clause} :
    truthAny clauses frame = .yes ↔ ∃ c ∈ clauses, truth c frame = .yes := by
  induction clauses with
  | nil => exact iff_of_false (by rw [truthAny]; decide) fun ⟨c, hc, _⟩ => List.not_mem_nil hc
  | cons c clauses ih => rw [truthAny, Truth.or_eq_yes, ih, List.exists_mem_cons_iff]

theorem truth_oneOf_eq_yes {column : ColumnRef} {values : List Value} :
    truth (.oneOf column values) frame = .yes ↔
      ∃ v ∈ values, v ≠ .null ∧ ∃ s, frame.get column = some s ∧ db.equals s v := by
  rw [truth]
  induction values with
  | nil => simp
  | cons v values ih =>
    rw [List.foldr_cons, Truth.or_eq_yes, ih, compared_eq_yes, List.exists_mem_cons_iff]

/-- One clause stands for itself, and of several all are asked for or one of them
is. Without clauses there is no condition, also not of the second kind. -/
theorem forall_joined {connective : Connective} {clauses : List Clause} :
    (∀ c ∈ Clause.joined connective clauses, truth c frame = .yes) ↔
      match connective with
      | .and => truthAll clauses frame = .yes
      | .or => clauses = [] ∨ truthAny clauses frame = .yes := by
  match clauses with
  | [] =>
    cases connective with
    | and => exact iff_of_true (fun c hc => by cases hc) (by rw [truthAll])
    | or => exact iff_of_true (fun c hc => by cases hc) (Or.inl rfl)
  | [d] => cases connective <;> simp [Clause.joined, truthAll_eq_yes, truthAny_eq_yes]
  | d :: e :: rest => cases connective <;> simp [Clause.joined, truth]

end Values

/-! ### The state as a predicate reads it -/

/-- **The test of a comparison** on a row. No value is equal to nothing, and nothing
else is: a cell without a value passes no other test. -/
def test (db : DatabaseState) (c : Condition) (row : db.Row) : Prop :=
  match c.comparison, c.value with
  | .isNull, _ | .equal, .null => db.cell row c.column = none
  | .equal, v => ∃ s, db.cell row c.column = some s ∧ db.equals s v
  | .like, v => ∃ s, db.cell row c.column = some s ∧ db.like s v
  | .oneOf, v => ∃ values, v.alternatives? = some values ∧
      ∃ w ∈ values, w ≠ .null ∧ ∃ s, db.cell row c.column = some s ∧ db.equals s w

/-- Whether two cells hold the same key. -/
def sameKey (db : DatabaseState) (row : db.Row) (column : String) (other : db.Row)
    (otherColumn : String) : Prop :=
  ∃ s t, db.cell row column = some s ∧ db.cell other otherColumn = some t ∧ db.same s t

/-- **What the state holds for a predicate**, whose tables are found by their
names. -/
abbrev contents (db : DatabaseState) (metadata : Metadata) : Contents where
  Row := db.Row
  rows name row := ∃ table, metadata.table name = .ok table ∧ db.rows table row
  sameKey := db.sameKey

section Related

variable {db : DatabaseState} {metadata : Metadata} {relation : Relation} {name : String}
  {table : TableDef} {row other : db.Row}

theorem related_direct (h : metadata.table name = .ok table) (hsecondary : relation.secondary = none) :
    (db.contents metadata).related relation name row other ↔
      db.rows table other ∧ db.sameKey row relation.localKey other relation.remoteKey := by
  simp only [Contents.related, hsecondary, h, Except.ok.injEq, exists_eq_left']

theorem related_through {association : Association} {link : TableDef}
    (h : metadata.table name = .ok table) (hsecondary : relation.secondary = some association)
    (hlink : metadata.table association.table = .ok link) :
    (db.contents metadata).related relation name row other ↔
      db.rows table other ∧ ∃ between, db.rows link between ∧
        db.sameKey row relation.localKey between association.localKey ∧
        db.sameKey between association.remoteKey other relation.remoteKey := by
  simp only [Contents.related, hsecondary, h, hlink, Except.ok.injEq, exists_eq_left']

end Related

end DatabaseState

end RelationalSearch.Sql
