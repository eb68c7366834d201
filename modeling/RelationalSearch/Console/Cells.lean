import RelationalSearch.Console.CellTable
import RelationalSearch.Text.CodePoints

/-!
# Cells

A console has cells of one size. Most characters take one cell, some take two and
some none, so that the width of a text is not its length. A text is brought to a
width by cutting it or by filling it up with blanks; a wide character that would
be cut in half gives way to a blank.

The main statement is `cells_fitCells`: what was brought to a width has it.
-/

namespace RelationalSearch.Console

/-- The number of cells that a character takes. -/
def charCells (c : Char) : Nat :=
  if 32 ≤ c.toNat && c.toNat < 127 then 1
  else if Text.inIntervals hiddenIntervals c.toNat then 0
  else if Text.inIntervals wideIntervals c.toNat then 2
  else 1

/-- The number of cells that a text takes. -/
def cells : List Char → Nat
  | [] => 0
  | c :: rest => charCells c + cells rest

/-- The beginning of a text that fits into a number of cells. -/
def takeCells (width : Nat) : List Char → List Char
  | [] => []
  | c :: rest => if charCells c ≤ width then c :: takeCells (width - charCells c) rest else []

/-- Blanks. -/
def blanks (n : Nat) : List Char := List.replicate n ' '

/-- A text cut or filled up to a width. -/
def fitCells (width : Nat) (cs : List Char) : List Char :=
  takeCells width cs ++ blanks (width - cells (takeCells width cs))

/-- A text cut to a width if it is longer. -/
def cropCells (width : Nat) (cs : List Char) : List Char :=
  if cells cs ≤ width then cs else fitCells width cs

/-- A text cut to a width if it is longer, with an ellipsis at the cut. -/
def ellipsizeCells (width : Nat) (cs : List Char) : List Char :=
  if cells cs ≤ width then cs else if width = 0 then [] else fitCells (width - 1) cs ++ ['…']

/-! ### Widths -/

theorem cells_append (as bs : List Char) : cells (as ++ bs) = cells as + cells bs := by
  induction as with
  | nil => simp [cells]
  | cons c rest ih => simp only [List.cons_append, cells, ih]; omega

theorem cells_blanks (n : Nat) : cells (blanks n) = n := by
  induction n with
  | zero => rfl
  | succ n ih =>
    rw [blanks, List.replicate_succ, cells]
    change charCells ' ' + cells (blanks n) = n + 1
    rw [ih, show charCells ' ' = 1 by decide]
    omega

theorem cells_takeCells_le (width : Nat) (cs : List Char) : cells (takeCells width cs) ≤ width := by
  induction cs generalizing width with
  | nil => simp [takeCells, cells]
  | cons c rest ih =>
    unfold takeCells
    split
    · have := ih (width - charCells c)
      simp only [cells]
      omega
    · simp [cells]

/-- A text that was cut or filled up to a width has that width. -/
theorem cells_fitCells (width : Nat) (cs : List Char) : cells (fitCells width cs) = width := by
  have := cells_takeCells_le width cs
  rw [fitCells, cells_append, cells_blanks]
  omega

/-- A text that was cut to a width is no wider. -/
theorem cells_cropCells_le (width : Nat) (cs : List Char) : cells (cropCells width cs) ≤ width := by
  unfold cropCells
  split
  · assumption
  · exact Nat.le_of_eq (cells_fitCells width cs)

end RelationalSearch.Console
