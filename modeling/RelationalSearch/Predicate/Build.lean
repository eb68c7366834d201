import RelationalSearch.Params.Bag
import RelationalSearch.Predicate.Leaf
import RelationalSearch.Schema.Table

/-!
# The predicate of one entity

The searchable columns fall into two parts, those compared loosely and those
compared for equality (`partitionColumns`). In a broad search every column takes
part and is compared with its own parameter or else with the broad one; without
one, only the columns that have parameters take part. The predicate is the
conjunction of the two parts, each joined by one connective.
-/

namespace RelationalSearch

/-- A list without repetitions, the first occurrences being kept. -/
def firstOccurrences (xs : List String) : List String :=
  xs.foldl (fun kept x => if kept.contains x then kept else kept ++ [x]) []

/-- The columns compared loosely and those compared for equality. -/
def partitionColumns (columns likeKeys : List String) (params : Bag) (broad : Bool) :
    List String × List String :=
  if broad then
    let like := (firstOccurrences likeKeys).filter columns.contains
    (like, columns.filter fun c => !like.contains c)
  else
    let requested := params.keys.filter columns.contains
    (requested.filter likeKeys.contains, requested.filter fun c => !likeKeys.contains c)

/-- How the predicate of an entity is made. -/
structure BuildMode where
  /-- Whether a broad search is on. -/
  broad : Bool
  /-- Whether columns are alternatives of each other. -/
  forceOr : Bool
  /-- Whether all columns are compared loosely. -/
  forceLike : Bool
  /-- The key of the broad-search parameter. -/
  broadKey : String
  deriving Repr

namespace BuildMode

/-- The connective between columns. -/
def connective (mode : BuildMode) : Connective :=
  if mode.broad || mode.forceOr then .or else .and

/-- The value that a column is compared with. -/
def valueFor (mode : BuildMode) (params : Bag) (column : String) : Value :=
  if mode.broad then (params.get? column).getD (params.get mode.broadKey) else params.get column

end BuildMode

namespace Predicate

/-- The comparison of a column that is compared loosely. -/
def looseLeaf (column : String) (value : Value) (stringLike : Bool) : List Predicate :=
  match value with
  | .list items => [(Group.anyLike column items stringLike).toPredicate]
  | v => ((Condition.make? column v stringLike true).map condition).toList

/-- The comparison of a column that is compared for equality, unless loose
comparisons are forced. -/
def exactLeaf (column : String) (value : Value) (stringLike forceLike : Bool) : List Predicate :=
  match value with
  | .list items =>
    [(if forceLike then Group.anyLike column items stringLike
      else Group.anyEqual column items stringLike).toPredicate]
  | v => ((Condition.make? column v stringLike forceLike).map condition).toList

end Predicate

/-- The predicate of an entity's own columns. -/
def buildPredicate (table : Table) (columns likeKeys : List String) (params : Bag)
    (mode : BuildMode) : Group :=
  if params.isEmpty then Group.empty
  else
    let parts := partitionColumns columns likeKeys params mode.broad
    let like := parts.1.flatMap fun c =>
      Predicate.looseLeaf c (mode.valueFor params c) (table.isStringLike c)
    let exact := parts.2.flatMap fun c =>
      Predicate.exactLeaf c (mode.valueFor params c) (table.isStringLike c) mode.forceLike
    Group.of .and
      [(Group.of mode.connective like).toPredicate, (Group.of mode.connective exact).toPredicate]

end RelationalSearch
