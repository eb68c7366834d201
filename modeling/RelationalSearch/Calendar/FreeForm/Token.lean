import RelationalSearch.Text.Blank
import RelationalSearch.Text.Letters

/-!
# The tokens of a date in free form

A date that someone has typed falls into words, numbers, single blanks and single
signs. A point may stand inside a word or a number, and a comma inside a number
of at least two digits; afterwards a token with points is broken up at them,
unless it is a number with a single one. A decimal comma becomes a point.
-/

namespace RelationalSearch.FreeForm

/-- What kind of token has begun. -/
inductive TokenKind where
  | word
  | number
  | dottedWord
  | dottedNumber
  deriving DecidableEq, Repr

/-- A token that has begun: its characters, the last one first, and whether
something has been read after a letter. -/
structure Begun where
  kind : TokenKind
  chars : List Char
  afterLetter : Bool
  deriving Repr

/-- Whether a character separates parts of a dotted token. -/
def isPoint (c : Char) : Bool := c == '.' || c == ','

/-- The parts of a dotted token, its points included. -/
def splitAtPoints : List Char → List (List Char)
  | [] => [[]]
  | c :: rest =>
    if isPoint c then [] :: [c] :: splitAtPoints rest
    else match splitAtPoints rest with
      | part :: parts => (c :: part) :: parts
      | [] => [[c]]

/-- The tokens that a finished token gives. -/
def Begun.tokens (t : Begun) : List String :=
  let cs := t.chars.reverse
  let points := cs.count '.'
  let broken := t.afterLetter || 1 < points || (t.chars.head?.map isPoint).getD false
  match t.kind with
  | .dottedWord =>
    if broken then ((splitAtPoints cs).filter (!·.isEmpty)).map String.ofList else [String.ofList cs]
  | .dottedNumber =>
    if broken then ((splitAtPoints cs).filter (!·.isEmpty)).map String.ofList
    else if points == 0 then [String.ofList (cs.map fun c => if c == ',' then '.' else c)]
    else [String.ofList cs]
  | _ => [String.ofList cs]

/-- The token with one more character, if the character belongs to it. -/
def Begun.extended? (t : Begun) (c : Char) : Option Begun :=
  let last := t.chars.head?
  match t.kind with
  | .word =>
    if Text.isLetterChar c then some ⟨.word, c :: t.chars, true⟩
    else if c == '.' then some ⟨.dottedWord, c :: t.chars, true⟩
    else none
  | .number =>
    if Text.isDigitSign c then some { t with chars := c :: t.chars }
    else if c == '.' || (c == ',' && 2 ≤ t.chars.length) then
      some { t with kind := .dottedNumber, chars := c :: t.chars }
    else none
  | .dottedWord =>
    if c == '.' || Text.isLetterChar c then some ⟨.dottedWord, c :: t.chars, true⟩
    else if Text.isDigitSign c && last == some '.' then some ⟨.dottedNumber, c :: t.chars, true⟩
    else none
  | .dottedNumber =>
    if c == '.' || Text.isDigitSign c then some { t with chars := c :: t.chars }
    else if Text.isLetterChar c && last == some '.' then
      some { t with kind := .dottedWord, chars := c :: t.chars }
    else none

/-- The token as it stands when a character follows that does not belong to it. -/
def Begun.closed (t : Begun) : Begun :=
  match t.kind with
  | .word => { t with afterLetter := true }
  | .dottedWord => { t with afterLetter := true }
  | _ => t

/-- What a character does at the beginning of a token: it is a token, or it
begins one. -/
def begin (c : Char) : List String × Option Begun :=
  if Text.isLetterChar c then ([], some ⟨.word, [c], false⟩)
  else if Text.isDigitSign c then ([], some ⟨.number, [c], false⟩)
  else if Text.isBlankChar c then ([" "], none)
  else ([String.singleton c], none)

/-- The tokens of a text after a token that may have begun. -/
def tokensFrom (begun : Option Begun) : List Char → List String
  | [] => (begun.map Begun.tokens).getD []
  | c :: rest =>
    match begun with
    | none =>
      let step := begin c
      step.1 ++ tokensFrom step.2 rest
    | some t =>
      match t.extended? c with
      | some t => tokensFrom (some t) rest
      | none =>
        let step := begin c
        t.closed.tokens ++ step.1 ++ tokensFrom step.2 rest

/-- The tokens of a text; null characters are passed over. -/
def tokens (s : String) : List String :=
  tokensFrom none (s.toList.filter fun c => c.toNat != 0)

end RelationalSearch.FreeForm
