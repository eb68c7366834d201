import RelationalSearch.Calendar.Written
import RelationalSearch.Console.Grid
import RelationalSearch.Console.Markup
import RelationalSearch.Log
import RelationalSearch.Predicate.Text
import RelationalSearch.Schema.Table
import RelationalSearch.Search.Compiled

/-!
# Searches and tables on a console

A compiled search is shown as an outline of its predicate in a panel, with a line
each for the order, the range of time and the entities that were visited. A table
is shown as a list of its columns. The texts are marked up, and a name that is
taken for an unfinished piece of markup cannot be shown.
-/

namespace RelationalSearch

open Console

/-- The lines that a console prints, none of them wider than the console. -/
def printedLines (width : Nat) (lines : List (List Char)) : List String :=
  lines.map fun line => String.ofList (cropCells width line)

/-- A marked up text as a console prints it. -/
def printedText (width : Nat) (markup : String) : Except Fault (List String) :=
  (unmarked markup).map fun text => printedLines width (textLines width flowing text)

/-! ### Searches -/

namespace Predicate

mutual

/-- The outline of a predicate: comparisons, semi-joins above their group, and groups
above their members. -/
def outline : Predicate → Except Fault Outline
  | .condition c => do
    let text ← c.render
    return .node (← unmarked (styled "green" (escapeMarkup text))) []
  | .group connective members => groupOutline connective members
  | .related relation targetTable connective members => do
    let label ← unmarked (styled "magenta" "EXISTS" ++ " " ++ styled "bold" relation.name ++ " "
      ++ styled "dim" ("-> " ++ targetTable))
    return .node label [← groupOutline connective members]

/-- The outline of a group; the group that asks for nothing is any row. -/
def groupOutline (connective : Connective) : List Predicate → Except Fault Outline
  | [] => return .node "any".toList []
  | p :: rest => do
    let first ← outline p
    let others ← outlines rest
    return .node connective.word.toList (first :: others)

/-- The outlines of several predicates. -/
def outlines : List Predicate → Except Fault (List Outline)
  | [] => return []
  | p :: rest => do
    let first ← outline p
    let others ← outlines rest
    return first :: others

end

end Predicate

/-- A time in a sentence. -/
def shownTime (t : Option OffsetTime) : String :=
  match t with
  | some t => t.written " "
  | none => "None"

namespace CompiledSearch

/-- What is said about a search below its predicate. -/
def details (s : CompiledSearch) : List String :=
  let order := s.sort.map fun key => key.column ++ (if key.descending then " desc" else " asc")
  let sorted := if order.isEmpty then [] else [styled "bold" "Sort" ++ ": " ++ ", ".intercalate order]
  let range := s.timeRange.toList.map fun r =>
    styled "bold" "Range" ++ ": " ++ r.column ++ " from " ++ shownTime r.start ++ " to "
      ++ shownTime r.finish ++ " " ++ styled "dim" ("(" ++ r.zoneName ++ ")")
  let visited :=
    if s.visited.isEmpty then [] else [styled "bold" "Visited" ++ ": " ++ ", ".intercalate s.visited]
  (sorted ++ range ++ visited).map fun line => "  " ++ line

/-- A search as a console prints it. -/
def display (s : CompiledSearch) (width : Nat) : Except Fault (List String) := do
  let label ← unmarked (entityMarkup s.entity ++ " " ++ styled "dim" ("(" ++ s.table ++ ")"))
  let predicate ← Predicate.groupOutline s.predicate.connective s.predicate.members
  let panel := panelLines width "Search".toList (.node label [predicate])
  let details ← s.details.mapM (printedText width)
  return printedLines width panel ++ details.flatten

end CompiledSearch

/-! ### Tables -/

namespace Table

/-- A table as a console prints it, with an empty line after it. -/
def display (t : Table) (width : Nat) : Except Fault (List String) := do
  let title ← unmarked (styled "bold blue" t.name ++ " " ++ styled "dim" ("(" ++ t.driver ++ ")"))
  let names ← t.columns.mapM fun c => unmarked c.name
  let categories ← t.columns.mapM fun c => unmarked c.category
  let searches := t.columns.map fun c => (if c.isStringLike then "text" else "typed").toList
  let grid : Grid := ⟨some title,
    [⟨"Column".toList, names, some 24, false⟩, ⟨"Category".toList, categories, some 16, true⟩,
      ⟨"Search".toList, searches, none, true⟩], false⟩
  return printedLines width (grid.lines width) ++ [""]

end Table

end RelationalSearch
