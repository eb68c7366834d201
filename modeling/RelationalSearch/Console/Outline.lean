import RelationalSearch.Console.Wrap

/-!
# Outlines

An outline is a label with outlines below it. It is drawn with a guide of four
cells for every level: a branch in front of the first line of a label, and in
front of all that follows a bar, as long as more branches come on that level.
-/

namespace RelationalSearch.Console

/-- A label and what is below it. -/
inductive Outline where
  | node (label : List Char) (below : List Outline)
  deriving Repr, Inhabited

/-- Text that is folded between words and within those that are too wide. -/
def flowing : Layout := ⟨.natural, .fold, true⟩

namespace Outline

/-- The guide in front of the first line of a label. -/
def branch (isLast : Bool) : List Char := if isLast then "└── ".toList else "├── ".toList

/-- The guide in front of what follows the first line of a label. -/
def bar (isLast : Bool) : List Char := if isLast then "    ".toList else "│   ".toList

/-- The lines of a label, with one guide in front of the first and another one in
front of the rest. -/
def labelLines (width : Nat) (first rest : List Char) (label : List Char) : List (List Char) :=
  match textLines (width - cells first) flowing label with
  | [] => []
  | line :: lines => (first ++ line) :: lines.map fun line => rest ++ line

mutual

/-- The lines of an outline, with guides of the levels above. -/
def linesFrom (width : Nat) (first rest : List Char) : Outline → List (List Char)
  | node label below => labelLines width first rest label ++ linesBelow width rest below

/-- The lines of the outlines below a label. -/
def linesBelow (width : Nat) (guides : List Char) : List Outline → List (List Char)
  | [] => []
  | o :: others =>
    linesFrom width (guides ++ branch others.isEmpty) (guides ++ bar others.isEmpty) o
      ++ linesBelow width guides others

end

/-- The lines of an outline. -/
def lines (width : Nat) (o : Outline) : List (List Char) := linesFrom width [] [] o

mutual

/-- The width that an outline needs on a level, where some width is available. -/
def neededWidth (available level : Nat) : Outline → Nat
  | node label below =>
    max ((textExtent available label).greatest + 4 * level) (neededWidthBelow available level below)

/-- The width that the outlines below a label need. -/
def neededWidthBelow (available level : Nat) : List Outline → Nat
  | [] => 0
  | o :: others =>
    max (neededWidth available (level + 1) o) (neededWidthBelow available level others)

end

end Outline

end RelationalSearch.Console
