import RelationalSearch.Console.Cells
import RelationalSearch.Text.Split

/-!
# Wrapping lines

A line that is too wide is broken between words; a word that is too wide for any
line begins a line of its own and is folded or, where folding is not wanted, cut
with an ellipsis. Blanks stay at the end of their word, and those that hang over
the end of a line are dropped.

The main statement is `flatten_wordGroups`: grouping into words loses nothing.
-/

namespace RelationalSearch.Console

/-- What happens to what is too wide. -/
inductive Overflow where
  /-- It goes on in the next line. -/
  | fold
  /-- It is cut with an ellipsis. -/
  | ellipsis
  deriving DecidableEq, Repr, Inhabited

/-- Where a text stands in its line. -/
inductive Alignment where
  /-- At the beginning, without filling up the line. -/
  | natural
  /-- At the beginning. -/
  | left
  /-- In the middle. -/
  | center
  deriving DecidableEq, Repr, Inhabited

/-- How a text is laid out. -/
structure Layout where
  alignment : Alignment
  overflow : Overflow
  /-- Whether lines are broken between words. -/
  wraps : Bool
  deriving DecidableEq, Repr, Inhabited

/-! ### Words -/

/-- A character in front of groups of characters: it joins the first group unless
it is a blank and the group begins with something else. -/
def joinGroup (c : Char) : List (List Char) → List (List Char)
  | [] => [[c]]
  | group :: groups =>
    if Text.isBlankChar c && !(group.head?.all Text.isBlankChar) then [c] :: group :: groups
    else (c :: group) :: groups

/-- The words of a text, each with the blanks after it; blanks in front are a group
of their own. -/
def wordGroups : List Char → List (List Char)
  | [] => []
  | c :: rest => joinGroup c (wordGroups rest)

/-- The words of a line, the first one with the blanks in front of it; a line of
blanks has no words. -/
def lineWords (cs : List Char) : List (List Char) :=
  match wordGroups cs with
  | [] => []
  | group :: groups =>
    if group.all Text.isBlankChar then
      match groups with
      | [] => []
      | next :: others => (group ++ next) :: others
    else group :: groups

theorem flatten_joinGroup (c : Char) (groups : List (List Char)) :
    (joinGroup c groups).flatten = c :: groups.flatten := by
  unfold joinGroup
  split
  · rfl
  · split <;> simp

/-- Grouping into words loses nothing. -/
theorem flatten_wordGroups (cs : List Char) : (wordGroups cs).flatten = cs := by
  induction cs with
  | nil => rfl
  | cons c rest ih => rw [wordGroups, flatten_joinGroup, ih]

/-- A word without the blanks after it. -/
def trimEnd (cs : List Char) : List Char := (cs.reverse.dropWhile Text.isBlankChar).reverse

/-- The pieces of a word that is too wide, given what the current piece holds; if
the first character does not fit, the first piece is empty. -/
def foldedFrom (width used : Nat) (piece : List Char) : List Char → List (List Char)
  | [] => [piece]
  | c :: rest =>
    if used + charCells c > width then piece :: foldedFrom width (charCells c) [c] rest
    else foldedFrom width (used + charCells c) (piece ++ [c]) rest

/-! ### Breaking a line -/

/-- The lines that are finished, the last one first, the line that is being filled,
the cells that are taken in it, and whether anything was placed yet. -/
structure Filling where
  finished : List (List Char)
  line : List Char
  taken : Nat
  begun : Bool
  deriving Repr, Inhabited

namespace Filling

/-- Nothing placed yet. -/
def start : Filling := ⟨[], [], 0, false⟩

/-- A piece at the beginning of a new line; before anything was placed, the first
line is new. -/
def placeFresh (f : Filling) (piece : List Char) : Filling :=
  if f.begun then ⟨f.line :: f.finished, piece, cells piece, true⟩
  else ⟨f.finished, f.line ++ piece, cells piece, !piece.isEmpty⟩

/-- One more word. -/
def place (width : Nat) (overflow : Overflow) (f : Filling) (word : List Char) : Filling :=
  if f.taken + cells (trimEnd word) ≤ width then
    ⟨f.finished, f.line ++ word, f.taken + cells word, true⟩
  else if width < cells (trimEnd word) ∧ overflow = .fold then
    (foldedFrom width 0 [] word).foldl placeFresh f
  else f.placeFresh word

/-- All lines. -/
def lines (f : Filling) : List (List Char) := f.finished.reverse ++ [f.line]

end Filling

/-- The lines of a line that is broken to a width. -/
def brokenLine (width : Nat) (overflow : Overflow) (cs : List Char) : List (List Char) :=
  match lineWords cs with
  | [] => [cs]
  | words => (words.foldl (Filling.place width overflow) Filling.start).lines

/-! ### Lines of a text -/

/-- A line with its tabulators as blanks, up to the next multiple of eight. -/
def withoutTabs (column : Nat) : List Char → List Char
  | [] => []
  | c :: rest =>
    if c == '\t' then
      let gap := 8 - column % 8
      blanks gap ++ withoutTabs (column + gap) rest
    else c :: withoutTabs (column + charCells c) rest

/-- A line without the blanks that hang over its end. -/
def withoutOverhang (width : Nat) (cs : List Char) : List Char :=
  let hanging := (cs.reverse.takeWhile Text.isBlankChar).length
  cs.take (cs.length - min hanging (cs.length - width))

/-- A line cut to a width. -/
def cutLine (width : Nat) : Overflow → List Char → List Char
  | .fold, cs => cropCells width cs
  | .ellipsis, cs => ellipsizeCells width cs

/-- A line in its place. -/
def alignedLine (width : Nat) (layout : Layout) (cs : List Char) : List Char :=
  match layout.alignment with
  | .natural => cs
  | .left =>
    let cut := cutLine width layout.overflow cs
    cut ++ blanks (width - cells cut)
  | .center =>
    let cut := cutLine width layout.overflow (trimEnd cs)
    let before := (width - cells cut) / 2
    blanks before ++ cut ++ blanks (width - before - cells cut)

/-- The lines of a text at a width. -/
def textLines (width : Nat) (layout : Layout) (cs : List Char) : List (List Char) :=
  (Text.splitAtEach '\n' cs).flatMap fun line =>
    let line := withoutTabs 0 line
    let broken := if layout.wraps then brokenLine width layout.overflow line else [line]
    broken.map fun line =>
      cutLine width layout.overflow (alignedLine width layout (withoutOverhang width line))

/-! ### The width that a text needs -/

/-- The least and the greatest width that is of use. -/
structure Extent where
  least : Nat
  greatest : Nat
  deriving DecidableEq, Repr, Inhabited

/-- Whether a character ends a line when a text is measured. -/
def endsMeasuredLine (c : Char) : Bool :=
  [10, 11, 12, 13, 28, 29, 30, 133, 8232, 8233].contains c.toNat

/-- All of some widths together. -/
def total (widths : List Nat) : Nat := widths.foldl (· + ·) 0

/-- The greatest of some widths. -/
def widest (widths : List Nat) : Nat := widths.foldl max 0

/-- The extent of a text where some width is available: its widest word and its
widest line. -/
def textExtent (available : Nat) (cs : List Char) : Extent :=
  let line := widest ((Text.splitWhere endsMeasuredLine cs).map cells)
  let words := (Text.words cs).map cells
  let word := if words.isEmpty then line else widest words
  ⟨min word available, min line available⟩

end RelationalSearch.Console
