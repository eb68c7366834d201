import RelationalSearch.Console.Panel

/-!
# Rules

A rule is a line across the console with a title in its middle.
-/

namespace RelationalSearch.Console

/-- A line across the console, with a title if there is room for one. -/
def ruleLine (width : Nat) (title : List Char) : List Char :=
  if width ≤ 4 then dashes width
  else
    let title := ellipsizeCells (width - 4)
      (withoutTabs 0 (title.map fun c => if c == '\n' then ' ' else c))
    let side := (width - cells title) / 2
    fitCells width
      (dashes (side - 1) ++ ' ' :: title ++ ' ' :: dashes (width - (side - 1) - cells title))

end RelationalSearch.Console
