import RelationalSearch.Console.Outline

/-!
# Panels

A panel is a box with round corners around an outline, as wide as the outline and
the title in the upper edge need and no wider than the console.
-/

namespace RelationalSearch.Console

/-- A horizontal line of a number of cells. -/
def dashes (n : Nat) : List Char := List.replicate n '─'

/-- The upper edge of a panel around some cells; a title needs room. -/
def panelTop (inner : Nat) (title : List Char) : List Char :=
  if inner ≤ 2 then '╭' :: dashes inner ++ ['╮']
  else
    let title := cropCells (inner - 2) (' ' :: title ++ [' '])
    let free := inner - 2 - cells title
    "╭─".toList ++ dashes (free / 2) ++ title ++ dashes (free - free / 2) ++ "─╮".toList

/-- The width inside a panel on a console: the outline with a blank on each side, or
the title with its surroundings, if there is room. -/
def panelWidth (width : Nat) (title : List Char) (o : Outline) : Nat :=
  let available := width - 2
  let needed :=
    if available ≤ 2 then available
    else min (min (o.neededWidth available 0) available + 2) available
  min available (max needed (cells title + 4))

/-- The lines of a panel on a console. -/
def panelLines (width : Nat) (title : List Char) (o : Outline) : List (List Char) :=
  let inner := panelWidth width title o
  let content := (o.lines (inner - 2)).map fun line =>
    fitCells inner (' ' :: fitCells (inner - 2) line ++ [' '])
  (panelTop inner title :: content.map fun line => '│' :: line ++ ['│'])
    ++ ['╰' :: dashes inner ++ ['╯']]

end RelationalSearch.Console
