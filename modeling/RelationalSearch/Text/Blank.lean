import RelationalSearch.Text.CodePoints

/-!
# Blank characters

The characters that count as white space when a text is trimmed: the separators
and line breaks of all scripts, and the four information separators of ASCII.
A text that holds nothing else is blank.
-/

namespace RelationalSearch.Text

/-- White space, as code point intervals. -/
def blankIntervals : List (Nat × Nat) :=
  [(9, 13), (28, 32), (133, 133), (160, 160), (5760, 5760), (8192, 8202), (8232, 8233),
   (8239, 8239), (8287, 8287), (12288, 12288)]

/-- Whether a character is white space. -/
def isBlankChar (c : Char) : Bool := inIntervals blankIntervals c.toNat

/-- The text without the white space at its two ends. -/
def trimChars (cs : List Char) : List Char :=
  ((cs.dropWhile isBlankChar).reverse.dropWhile isBlankChar).reverse

/-- The text without the white space at its two ends. -/
def trim (s : String) : String := String.ofList (trimChars s.toList)

/-- A text of white space only, the empty text included. -/
def isBlank (s : String) : Bool := s.toList.all isBlankChar

/-- Everything that is white space in the narrow sense is blank here too. -/
theorem isBlankChar_of_isWhitespace {c : Char} (h : c.isWhitespace = true) :
    isBlankChar c = true := by
  simp only [Char.isWhitespace, Bool.or_eq_true, decide_eq_true_eq] at h
  rcases h with ((h | h) | h) | h <;> subst h <;> decide

end RelationalSearch.Text
