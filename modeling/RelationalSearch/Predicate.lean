import RelationalSearch.Entity
import RelationalSearch.Value

/-!
# Predicates

A predicate is what a search compiles to: comparisons of single columns, groups
joined by one connective, and semi-joins, which ask for a related row that
satisfies a group of its own. A group without members asks for nothing.

The group of a semi-join is kept as its connective and its members, so that a
semi-join can hold nothing but a group.
-/

namespace RelationalSearch

/-- How the members of a group are joined. -/
inductive Connective where
  | and
  | or
  deriving DecidableEq, Repr, Inhabited

/-- The comparisons. -/
inductive Comparison where
  /-- Equality. -/
  | equal
  /-- A pattern with wildcards. -/
  | like
  /-- One of several values. -/
  | oneOf
  /-- No value. -/
  | isNull
  deriving DecidableEq, Repr, Inhabited

/-- A comparison of one column. -/
structure Condition where
  column : String
  comparison : Comparison
  value : Value
  deriving Repr, Inhabited

/-- A predicate. -/
inductive Predicate where
  /-- A comparison of one column. -/
  | condition (c : Condition)
  /-- Members joined by a connective. -/
  | group (connective : Connective) (members : List Predicate)
  /-- Some related row satisfies a group. -/
  | related (relation : Relation) (targetTable : String) (connective : Connective)
      (members : List Predicate)
  deriving Repr, Inhabited

/-- A group by itself. -/
structure Group where
  connective : Connective
  members : List Predicate
  deriving Repr, Inhabited

namespace Group

/-- The group that asks for nothing. -/
def empty : Group := ⟨.and, []⟩

/-- The group as a predicate. -/
def toPredicate (g : Group) : Predicate := .group g.connective g.members

/-- Whether a group has no members. -/
def isEmpty (g : Group) : Bool := g.members.isEmpty

/-- The semi-join with a group as its predicate. -/
def related (relation : Relation) (targetTable : String) (g : Group) : Predicate :=
  .related relation targetTable g.connective g.members

end Group

/-! ### Composition -/

namespace Predicate

/-- A predicate without the groups of one member around it. -/
def unwrapped : Predicate → Predicate
  | group _ [p] => unwrapped p
  | p => p

/-- What a predicate contributes to a group: groups that ask for nothing
contribute nothing, and a group with the same connective contributes its
members. -/
def contribution (connective : Connective) (p : Predicate) : List Predicate :=
  match p.unwrapped with
  | group c members =>
    if members.isEmpty then [] else if c = connective then members else [group c members]
  | p => [p]

end Predicate

namespace Group

/-- The group of several predicates: groups that ask for nothing are dropped,
groups of one member are opened, groups with the same connective are merged. -/
def of (connective : Connective) (parts : List Predicate) : Group :=
  ⟨connective, parts.flatMap (Predicate.contribution connective)⟩

end Group

/-! ### Columns -/

namespace Predicate

mutual

/-- The columns compared directly, outside semi-joins. -/
def columns : Predicate → List String
  | condition c => [c.column]
  | group _ members => columnsOf members
  | related .. => []

/-- The columns that several predicates compare directly. -/
def columnsOf : List Predicate → List String
  | [] => []
  | p :: rest => columns p ++ columnsOf rest

end

end Predicate

/-- The columns that a group compares directly. -/
def Group.columns (g : Group) : List String := Predicate.columnsOf g.members

end RelationalSearch
