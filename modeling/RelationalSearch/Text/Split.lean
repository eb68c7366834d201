import RelationalSearch.Text.Blank

/-!
# Splitting a text

A text with a separator is a list of parts, one more than there are separators.
Its words are the parts between blanks that are not empty.
-/

namespace RelationalSearch.Text

/-- The parts of a text between the occurrences of a separator. -/
def splitAtEach (separator : Char) : List Char → List (List Char)
  | [] => [[]]
  | c :: rest =>
    if c == separator then [] :: splitAtEach separator rest
    else match splitAtEach separator rest with
      | part :: parts => (c :: part) :: parts
      | [] => [[c]]

/-- A text is never without parts. -/
theorem splitAtEach_ne_nil (separator : Char) (cs : List Char) :
    splitAtEach separator cs ≠ [] := by
  cases cs with
  | nil => simp [splitAtEach]
  | cons c rest =>
    unfold splitAtEach
    split
    · simp
    · split <;> simp

/-- The text whose parts are given. -/
def joinWith (separator : Char) : List (List Char) → List Char
  | [] => []
  | [part] => part
  | part :: parts => part ++ separator :: joinWith separator parts

/-- The parts of a text between the characters of a class. -/
def splitWhere (separates : Char → Bool) : List Char → List (List Char)
  | [] => [[]]
  | c :: rest =>
    if separates c then [] :: splitWhere separates rest
    else match splitWhere separates rest with
      | part :: parts => (c :: part) :: parts
      | [] => [[c]]

/-- The words of a text, between blanks. -/
def words (cs : List Char) : List (List Char) :=
  (splitWhere isBlankChar cs).filter fun part => !part.isEmpty

end RelationalSearch.Text
