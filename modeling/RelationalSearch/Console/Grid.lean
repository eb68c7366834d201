import RelationalSearch.Console.Panel
import RelationalSearch.Number.Nearest

/-!
# Tables on a console

A table has columns with a head and cells, each with a blank on both sides. A
column is as wide as its widest cell unless its width is fixed; where the console
is too narrow, the widest of the columns that may wrap give way first, and then
all columns evenly. A table is drawn in a box with a heavy head, or without lines.
A title stands over its middle.
-/

namespace RelationalSearch.Console

/-- A column of a table. -/
structure Column where
  header : List Char
  cells : List (List Char)
  /-- The width inside the blanks, if it is fixed. -/
  fixedWidth : Option Nat
  /-- Whether the cells are broken between words. -/
  wraps : Bool
  deriving Repr, Inhabited

/-- A table. -/
structure Grid where
  title : Option (List Char)
  columns : List Column
  boxed : Bool
  deriving Repr, Inhabited

namespace Column

/-- The width of a column with its blanks, where some width is available. -/
def width (available : Nat) (c : Column) : Nat :=
  match c.fixedWidth with
  | some n => min (n + 2) available
  | none =>
    widest ((c.header :: c.cells).map fun cell =>
      if available ≤ 2 then available
      else min ((textExtent available cell).greatest + 2) available)

/-- Whether a column may give way before others. -/
def yields (c : Column) : Bool := c.fixedWidth.isNone && c.wraps

/-- The lines of a cell of a column at a width. -/
def cellLines (width : Nat) (c : Column) (cell : List Char) : List (List Char) :=
  (textLines (width - 2) ⟨.left, .ellipsis, c.wraps⟩ cell).map fun line =>
    fitCells width (' ' :: fitCells (width - 2) line ++ [' '])

end Column

/-! ### Widths -/

/-- Takes an amount from some widths in turn, an even share of what is left from
each that takes part, up to a limit: each width comes with its limit, and takes part
if it is marked. -/
def sharedOut (amount shares : Nat) : List (Nat × Nat × Bool) → List Nat
  | [] => []
  | (width, limit, takesPart) :: rest =>
    if takesPart && 0 < limit && 0 < shares then
      let share := min limit (divNearest amount shares)
      (width - share) :: sharedOut (amount - share) (shares - 1) rest
    else width :: sharedOut amount shares rest

/-- Takes an amount from some widths, each with its limit and whether it takes
part. -/
def reducedWidths (amount : Nat) (widths : List (Nat × Nat × Bool)) : List Nat :=
  sharedOut amount (widths.countP fun w => w.2.2 && 0 < w.2.1) widths

/-- Makes the widest columns that yield as narrow as the next ones, until all fit or
nothing is left to give; a bound on the number of rounds comes first. -/
def collapsedWidths (available : Nat) : Nat → List (Nat × Bool) → List (Nat × Bool)
  | 0, widths => widths
  | rounds + 1, widths =>
    let excess := total (widths.map Prod.fst) - available
    let yielding := widths.filterMap fun w => if w.2 then some w.1 else none
    let top := widest yielding
    let difference := top - widest (yielding.filter fun w => w != top)
    if excess = 0 || difference = 0 then widths
    else
      let reduced := reducedWidths excess (widths.map fun w =>
        (w.1, min excess difference, w.2 && w.1 == top))
      collapsedWidths available rounds (reduced.zip (widths.map Prod.snd))

/-- The widths of columns where some width is available for all. -/
def columnWidths (available : Nat) (columns : List Column) : List Nat :=
  let widths := columns.map fun c => max 1 (c.width available)
  if total widths ≤ available then widths
  else
    let yielding := columns.map Column.yields
    let collapsed := (collapsedWidths available (total widths) (widths.zip yielding)).map Prod.fst
    let even :=
      if total collapsed ≤ available then collapsed
      else reducedWidths (total collapsed - available) (collapsed.map fun w => (w, w, true))
    (columns.zip even).map fun e => e.1.width e.2

/-! ### Lines -/

/-- The blocks of a row filled up to the same height, at the top or at the
bottom. -/
def levelled (atTop : Bool) (blocks : List (Nat × List (List Char))) : List (List (List Char)) :=
  let height := widest (blocks.map fun b => b.2.length)
  blocks.map fun b =>
    let filling := List.replicate (height - b.2.length) (blanks b.1)
    if atTop then filling ++ b.2 else b.2 ++ filling

/-- The lines of blocks of the same height side by side. -/
def sideBySide (join : List (List Char) → List Char) (blocks : List (List (List Char))) :
    List (List Char) :=
  (List.range (widest (blocks.map List.length))).map fun i =>
    join (blocks.map fun block => block.getD i [])

/-- Parts between an opening and a closing sign, with a sign between them. -/
def framed (opening between closing : Char) (parts : List (List Char)) : List Char :=
  opening :: (parts.intersperse [between]).flatten ++ [closing]

/-- A horizontal line of a box. -/
def boxLine (opening dash between closing : Char) (widths : List Nat) : List Char :=
  framed opening between closing (widths.map fun w => List.replicate w dash)

namespace Grid

/-- A table with heads and rows; what is missing is empty. -/
def ofRows (title : Option (List Char)) (headers : List (List Char))
    (rows : List (List (List Char))) : Grid :=
  let count := max headers.length (widest (rows.map List.length))
  ⟨title, (List.range count).map fun i =>
    ⟨headers.getD i [], rows.map fun row => row.getD i [], none, true⟩, true⟩

/-- The cells that the lines of the box take. -/
def frameWidth (g : Grid) : Nat := if g.boxed then g.columns.length + 1 else 0

/-- The lines of a row; the cells of the head stand at the bottom. -/
def rowLines (g : Grid) (widths : List Nat) (isHead : Bool) (row : List (List Char)) :
    List (List Char) :=
  let blocks := (g.columns.zip (widths.zip row)).map fun e =>
    (e.2.1, e.1.cellLines e.2.1 e.2.2)
  let join :=
    if !g.boxed then List.flatten else if isHead then framed '┃' '┃' '┃' else framed '│' '│' '│'
  sideBySide join (levelled isHead blocks)

/-- The lines of a table on a console; a table without columns is an empty line. -/
def lines (width : Nat) (g : Grid) : List (List Char) :=
  if g.columns.isEmpty then [[]]
  else
    let widths := columnWidths (width - g.frameWidth) g.columns
    let title := match g.title with
      | some title => textLines (total widths + g.frameWidth) ⟨.center, .fold, true⟩ title
      | none => []
    let head := g.rowLines widths true (g.columns.map Column.header)
    let height := widest (g.columns.map fun c => c.cells.length)
    let body := (List.range height).flatMap fun i =>
      g.rowLines widths false (g.columns.map fun c => c.cells.getD i [])
    if g.boxed then
      title ++ [boxLine '┏' '━' '┳' '┓' widths] ++ head ++ [boxLine '┡' '━' '╇' '┩' widths] ++ body
        ++ [boxLine '└' '─' '┴' '┘' widths]
    else title ++ head ++ body

end Grid

end RelationalSearch.Console
