import RelationalSearch.Sql.Metadata
import RelationalSearch.Value

/-!
# Clauses

The conditions of a statement. A clause does not mention tables by name but by
their occurrence: the table that is searched, the one that columns are selected
from, or the target or the link of the semi-join at some depth of nesting. Two
occurrences of one table are therefore never mixed up; names for them are made
only when the clause is written.
-/

namespace RelationalSearch.Sql

/-- An occurrence of a table in a statement. -/
inductive Occurrence where
  /-- The table that is searched. -/
  | root
  /-- The table that columns are selected from, if it is another one. -/
  | selected
  /-- The target of the semi-join at a depth. -/
  | target (depth : Nat)
  /-- The association table of the semi-join at a depth. -/
  | link (depth : Nat)
  deriving DecidableEq, Repr, Inhabited

/-- A column of an occurrence. -/
structure ColumnRef where
  occurrence : Occurrence
  column : String
  deriving DecidableEq, Repr, Inhabited

/-- An association table, joined to the target by two equal columns. -/
structure Link where
  table : TableDef
  column : ColumnRef
  targetColumn : ColumnRef
  deriving DecidableEq, Repr, Inhabited

/-- A condition of a statement. -/
inductive Clause where
  /-- A column equals a value. -/
  | equals (column : ColumnRef) (value : Value)
  /-- A column equals a truth value, which stands in the statement itself. -/
  | equalsTruth (column : ColumnRef) (truth : Bool)
  /-- A column matches a pattern. -/
  | like (column : ColumnRef) (pattern : Value)
  /-- A column is not below a value. -/
  | atLeast (column : ColumnRef) (value : Value)
  /-- A column is not above a value. -/
  | atMost (column : ColumnRef) (value : Value)
  /-- A column is between two values or equal to one of them. -/
  | between (column : ColumnRef) (low high : Value)
  /-- A column equals one of several values. -/
  | oneOf (column : ColumnRef) (values : List Value)
  /-- A column has no value. -/
  | isNull (column : ColumnRef)
  /-- A column has a value. -/
  | isPresent (column : ColumnRef)
  /-- Two columns are equal. -/
  | same (left right : ColumnRef)
  /-- All of several conditions. -/
  | conj (clauses : List Clause)
  /-- One of several conditions. -/
  | disj (clauses : List Clause)
  /-- Some row of a table, together with one of its association table if there is
  one, satisfies all of several conditions. -/
  | existsRow (depth : Nat) (target : TableDef) (link : Option Link) (criteria : List Clause)
  deriving Repr, Inhabited

namespace Clause

/-- How closely a clause holds together; a clause that does so less than what
stands around it needs parentheses. -/
def rank : Clause → Nat
  | existsRow .. => 0
  | disj _ => 2
  | conj _ => 3
  | _ => 5

mutual

/-- The occurrences that a clause mentions outside semi-joins, in order. -/
def occurrences : Clause → List Occurrence
  | equals c _ | equalsTruth c _ | like c _ | atLeast c _ | atMost c _ | between c _ _
  | oneOf c _ | isNull c | isPresent c => [c.occurrence]
  | same a b => [a.occurrence, b.occurrence]
  | conj clauses => occurrencesOf clauses
  | disj clauses => occurrencesOf clauses
  | existsRow .. => []

/-- The occurrences that several clauses mention outside semi-joins. -/
def occurrencesOf : List Clause → List Occurrence
  | [] => []
  | c :: rest => occurrences c ++ occurrencesOf rest

end

end Clause

end RelationalSearch.Sql
