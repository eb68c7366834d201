import RelationalSearch.Text.Alphanumeric

/-!
# The singular of a word

English plurals are undone by a list of rules, tried in order: the first whose
ending fits the word decides, and a word that none fits is its own singular. A
few words have no singular. Letters are compared without regard to case, and
long s, the Kelvin sign and the dotted and dotless i count as the letters they
resemble. One line feed at the end of the word is overlooked.
-/

namespace RelationalSearch.Word

/-- A letter by which words are compared. -/
def foldLetter (c : Char) : Char :=
  if c.toNat == 0x17F then 's'
  else if c.toNat == 0x212A then 'k'
  else if c.toNat == 0x130 || c.toNat == 0x131 then 'i'
  else c.toLower

/-- A place in an ending. -/
inductive Place where
  /-- This letter. -/
  | letter (c : Char)
  /-- This very character, capital or small as it stands. -/
  | exactly (c : Char)
  /-- One of these letters. -/
  | among (letters : List Char)
  /-- None of these letters. -/
  | except (letters : List Char)
  deriving DecidableEq, Repr

/-- Whether a character fits a place. -/
def Place.fits : Place → Char → Bool
  | letter c, x => foldLetter x == c
  | exactly c, x => x == c
  | among letters, x => letters.contains (foldLetter x)
  | except letters, x => !letters.contains (foldLetter x)

/-- The places of a text, letter by letter. -/
def letters (s : String) : List Place := s.toList.map .letter

/-- Whether characters fit places one by one. -/
def allFit : List Place → List Char → Bool
  | [], [] => true
  | p :: ps, c :: cs => p.fits c && allFit ps cs
  | _, _ => false

/-- One form of an ending: the part that the singular keeps and the part that it
loses. -/
structure Ending where
  kept : List Place
  lost : List Place
  deriving Repr

/-- A rule: the endings that it looks for, what replaces the lost part, and
whether the ending must be the whole word. -/
structure Rule where
  endings : List Ending
  replacement : String
  whole : Bool
  deriving Repr

/-- An ending of which the first text is kept and the second lost. -/
def ending (kept lost : String) : Ending := ⟨letters kept, letters lost⟩

/-- A rule for endings that may follow anything. -/
def rule (endings : List Ending) (replacement : String) : Rule := ⟨endings, replacement, false⟩

/-- A rule for `kept` followed by `lost`. -/
def simpleRule (kept lost replacement : String) : Rule := rule [ending kept lost] replacement

/-- A rule for words that become another word altogether, apart from the case of
the first letter. -/
def wordRule (first : Char) (rest replacement : String) : Rule :=
  ⟨[⟨[], .exactly first :: letters rest⟩], replacement, false⟩

/-- Vowels, `y` included. -/
def vowels : List Char := ['a', 'e', 'i', 'o', 'u', 'y']

/-- Irregular plurals, tried before the endings. -/
def irregularRules : List Rule :=
  [simpleRule "z" "ombies" "ombie", wordRule 'k' "ine" "cow", wordRule 'K' "ine" "Cow",
   simpleRule "m" "oves" "ove", simpleRule "s" "exes" "ex", simpleRule "c" "hildren" "hild",
   simpleRule "h" "umans" "uman", simpleRule "m" "en" "an", simpleRule "p" "eople" "erson"]

/-- Endings that a rule looks for after a common start. -/
def withEither (start : String) (lost : List String) : List Ending := lost.map (ending start)

/-- The endings of plurals, the particular ones before the general ones. -/
def endingRules : List Rule :=
  [simpleRule "database" "s" "",
   simpleRule "quiz" "zes" "",
   simpleRule "matr" "ices" "ix",
   rule [ending "vert" "ices", ending "ind" "ices"] "ex",
   simpleRule "passer" "sby" "by"]

@[inherit_doc endingRules]
def laterEndingRules : List Rule :=
  [rule (withEither "alias" ["es", ""] ++ withEither "status" ["es", ""]) "",
   rule (withEither "octop" ["us", "i"] ++ withEither "vir" ["us", "i"]) "us",
   ⟨[⟨letters "a", [.letter 'x', .among ['i', 'e'], .letter 's']⟩], "xis", true⟩,
   rule (withEither "cris" ["is", "es"] ++ withEither "test" ["is", "es"]) "is",
   simpleRule "shoe" "s" "",
   simpleRule "o" "es" "",
   rule (withEither "bus" ["es", ""]) "",
   rule [ending "m" "ice", ending "l" "ice"] "ouse",
   rule [ending "x" "es", ending "ch" "es", ending "ss" "es", ending "sh" "es"] "",
   simpleRule "m" "ovies" "ovie",
   simpleRule "s" "eries" "eries",
   rule [⟨[.except vowels], letters "ies"⟩, ending "qu" "ies"] "y",
   rule [⟨[.among ['l', 'r']], letters "ves"⟩] "f",
   simpleRule "tive" "s" "",
   simpleRule "hive" "s" "",
   rule [⟨[.except ['f']], letters "ves"⟩] "fe",
   rule (withEither "t" ["hesis", "heses"]) "hesis",
   rule (withEither "s" ["ynopsis", "ynopses"]) "ynopsis",
   rule (withEither "p" ["rognosis", "rognoses"]) "rognosis",
   rule (withEither "p" ["arenthesis", "arentheses"]) "arenthesis",
   rule (withEither "d" ["iagnosis", "iagnoses"]) "iagnosis",
   rule (withEither "b" ["asis", "ases"]) "asis",
   rule (withEither "a" ["nalysis", "nalyses"]) "nalysis",
   rule [⟨[.among ['t', 'i']], letters "a"⟩] "um",
   simpleRule "n" "ews" "ews",
   simpleRule "ss" "" "",
   simpleRule "" "s" ""]

/-- Words without a singular. -/
def uncountable : List String :=
  ["equipment", "fish", "information", "jeans", "money", "rice", "series", "sheep", "species"]

/-- Whether a character is part of a word. -/
def isWordChar (c : Char) : Bool := Text.isAlphanumericChar c || c == '_'

/-- Whether a text ends with an uncountable word that begins a word. -/
def isUncountable (cs : List Char) : Bool :=
  uncountable.any fun w =>
    let start := cs.length - w.length
    allFit (letters w) (cs.drop start) &&
      (match (cs.take start).getLast? with
      | some c => !isWordChar c
      | none => true)

/-- Applies an ending to the end of a word. -/
def Ending.applyTo? (e : Ending) (replacement : List Char) (whole : Bool) (word : List Char) :
    Option (List Char) :=
  let size := e.kept.length + e.lost.length
  let start := word.length - size
  if size ≤ word.length && (!whole || start == 0) && allFit (e.kept ++ e.lost) (word.drop start) then
    some (word.take (start + e.kept.length) ++ replacement)
  else none

/-- Applies the longest ending of a rule that fits. -/
def Rule.applyTo? (r : Rule) (word : List Char) : Option (List Char) :=
  let bySize := r.endings.mergeSort fun a b =>
    b.kept.length + b.lost.length ≤ a.kept.length + a.lost.length
  bySize.findSome? fun e => e.applyTo? r.replacement.toList r.whole word

/-- The rule for `oxen`, which looks at the beginning of the word only. -/
def oxen? (word : List Char) : Option (List Char) :=
  if allFit (letters "oxen") (word.take 4) then some (word.take 2 ++ word.drop 4) else none

/-- The singular of a word, if a rule fits. -/
def byRules? (word : List Char) : Option (List Char) :=
  (irregularRules ++ endingRules).findSome? (·.applyTo? word)
    <|> oxen? word
    <|> laterEndingRules.findSome? (·.applyTo? word)

/-- The singular of a word. -/
def singular (word : List Char) : List Char :=
  if isUncountable word then word
  else if word.getLast? == some '\n' then
    match byRules? word.dropLast with
    | some w => w ++ ['\n']
    | none => word
  else (byRules? word).getD word

end RelationalSearch.Word
