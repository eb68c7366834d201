import RelationalSearch.Text.Blank
import RelationalSearch.Text.CaseMapping
import RelationalSearch.Text.Digits
import RelationalSearch.Text.LetterCase
import RelationalSearch.Word.Singular

/-!
# Words joined by underscores

A name in mixed case is taken apart before each of its capitals, the parts are
joined by underscores and written small. Of a run of capitals and digits only
the first capital counts, and the last one when a small letter follows. A name
all in capitals, and a numeral, stay as they are.

The *scope key* of a relation, under which its parameters are written, is the
singular of its name in this form.
-/

namespace RelationalSearch.Word

/-- Whether a character is a capital of ASCII. -/
def isPlainCapital (c : Char) : Bool := 'A' ≤ c && c ≤ 'Z'

/-- Capitals of ASCII and digits. -/
def isCapitalOrDigit (c : Char) : Bool := isPlainCapital c || Text.isDigitChar c

/-- A run of capitals and digits with every capital made small that follows
another. -/
def softened (afterCapital : Bool) : List Char → List Char
  | [] => []
  | c :: rest =>
    (if isPlainCapital c && afterCapital then c.toLower else c) :: softened (isPlainCapital c) rest

/-- Softens a whole run: when something follows it, its last character stays as
it is, beginning what follows. -/
def softenRun (run : List Char) (followed : Bool) : List Char :=
  if followed then softened false run.dropLast ++ run.getLast?.toList else softened false run

/-- Softens every run of capitals and digits; `run` is the current run, last
character first. -/
def softenRuns (run : List Char) : List Char → List Char
  | [] => softenRun run.reverse false
  | c :: rest =>
    if isCapitalOrDigit c then softenRuns (c :: run) rest
    else softenRun run.reverse true ++ c :: softenRuns [] rest

/-- Whether a character joins words. -/
def isJoiner (c : Char) : Bool := c == '-' || c == '_'

/-- The parts of a text that begin at its capitals; the first part is what stands
before all of them. -/
def atCapitals : List Char → List (List Char)
  | [] => [[]]
  | c :: rest =>
    match atCapitals rest with
    | part :: parts => if isPlainCapital c then [] :: (c :: part) :: parts else (c :: part) :: parts
    | [] => [[c]]

/-- The words of a text: its parts at capitals, joiners before the first capital
going with it, empty parts left out. -/
def wordParts (cs : List Char) : List (List Char) :=
  (match atCapitals cs with
  | before :: first :: rest =>
    let joiners := (before.reverse.takeWhile isJoiner).reverse
    before.take (before.length - joiners.length) :: (joiners ++ first) :: rest
  | parts => parts).filter (!·.isEmpty)

/-- A name with its words joined by underscores. -/
def snake (name : List Char) : String :=
  let cs := name.filter fun c => !Text.isBlankChar c
  if Text.isCapital cs || Text.isNumeral cs then String.ofList name
  else Text.toSmall (String.ofList (['_'].intercalate (wordParts (softenRuns [] cs))))

end RelationalSearch.Word

namespace RelationalSearch

/-- The name under which the parameters of a relation are written. -/
def scopeKey (relation : String) : String := Word.snake (Word.singular relation.toList)

end RelationalSearch
