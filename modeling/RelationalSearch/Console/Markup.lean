import RelationalSearch.Console.Shortcode
import RelationalSearch.Console.StyleName
import RelationalSearch.Error
import RelationalSearch.Log

/-!
# Marked up text

A text for a console can name styles in tags, `[bold]` to begin and `[/bold]` to
end, or `[/]` to end the last one. A tag begins with a small letter or one of `#`,
`/` and `@`; every other bracket stands for itself, and so does a tag after a
backslash. A backslash before a tag is doubled to stand for itself.

What a console without colours shows of such a text is the text without its tags.
`escapeMarkup` makes a text that is shown as it is.
-/

namespace RelationalSearch.Console

/-! ### Tags -/

/-- Whether a tag can begin with a character. -/
def beginsTag (c : Char) : Bool :=
  ('a' ≤ c && c ≤ 'z') || c == '#' || c == '/' || c == '@'

/-- Whether a character stays inside a tag. -/
def staysInTag (c : Char) : Bool := c != '[' && c != ']'

/-- The inside of a tag whose opening bracket was read, and what comes after its
closing bracket. -/
def tagBody? : List Char → Option (List Char × List Char)
  | [] => none
  | c :: rest =>
    if beginsTag c then
      match rest.dropWhile staysInTag with
      | ']' :: after => some (c :: rest.takeWhile staysInTag, after)
      | _ => none
    else none

theorem length_of_tagBody? {cs body after : List Char} (h : tagBody? cs = some (body, after)) :
    after.length < cs.length := by
  unfold tagBody? at h
  split at h
  · cases h
  · rename_i c rest
    split at h
    · split at h
      · rename_i after' hd
        cases h
        have := (List.dropWhile_suffix staysInTag (l := rest)).length_le
        rw [hd] at this
        simp only [List.length_cons] at this ⊢
        omega
      · cases h
    · cases h

/-- A part of a marked up text. -/
inductive MarkupPart where
  /-- Text to be shown. -/
  | plain (text : List Char)
  /-- A tag, without its brackets. -/
  | tag (body : List Char)
  deriving DecidableEq, Repr, Inhabited

/-- Backslashes. -/
def backslashes (n : Nat) : List Char := List.replicate n '\\'

/-- The text in front of a tag: what was read so far, if anything. -/
def plainPart (text : List Char) : List MarkupPart := if text.isEmpty then [] else [.plain text]

/-- What a tag after some backslashes stands for: each pair of backslashes for one,
and a single one for the tag itself as text. -/
def taggedParts (slashes : Nat) (body : List Char) : List MarkupPart :=
  plainPart (backslashes (slashes / 2))
    ++ [if slashes % 2 = 1 then .plain ('[' :: body ++ [']']) else .tag body]

/-- The parts of a marked up text, given the text before and the number of
backslashes directly before. -/
def markupPartsFrom (before : List Char) (slashes : Nat) (cs : List Char) : List MarkupPart :=
  match cs with
  | [] => plainPart (before ++ backslashes slashes)
  | c :: rest =>
    if c == '\\' then markupPartsFrom before (slashes + 1) rest
    else if c == '[' then
      match h : tagBody? rest with
      | some (body, after) =>
        have := length_of_tagBody? h
        plainPart before ++ taggedParts slashes body ++ markupPartsFrom [] 0 after
      | none => markupPartsFrom (before ++ backslashes slashes ++ [c]) 0 rest
    else markupPartsFrom (before ++ backslashes slashes ++ [c]) 0 rest
termination_by cs.length

/-- The parts of a marked up text. -/
def markupParts (cs : List Char) : List MarkupPart := markupPartsFrom [] 0 cs

/-! ### The text without its tags -/

/-- A bracket that begins no tag may have a backslash in front. -/
def openedBrackets : List Char → List Char
  | '\\' :: '[' :: rest => '[' :: openedBrackets rest
  | c :: rest => c :: openedBrackets rest
  | [] => []

/-- Whether a console drops a character. -/
def isDropped (c : Char) : Bool := [7, 8, 11, 12, 13].contains c.toNat

/-- A part of the text as it is shown. -/
def shownPart (text : List Char) : List Char :=
  (pictured (openedBrackets text)).filter fun c => !isDropped c

/-- The name of the style in a tag: what is in front of an equals sign. -/
def tagName (body : List Char) : List Char := body.takeWhile fun c => c != '='

/-- The styles that are begun after a tag, the last one first; a tag that ends a
style needs one to end. -/
def stylesAfter (begun : List String) (body : List Char) : Except Fault (List String) :=
  match tagName body with
  | '/' :: name =>
    let name := Text.trimChars name
    if name.isEmpty then
      match begun with
      | _ :: others => .ok others
      | [] => .error .unbegunStyle
    else
      let style := StyleName.normal (String.ofList name)
      if begun.contains style then .ok (begun.erase style) else .error .unbegunStyle
  | name => .ok (StyleName.normal (String.ofList name) :: begun)

/-- The text of several parts, given the styles that are begun. -/
def shownParts (begun : List String) : List MarkupPart → Except Fault (List Char)
  | [] => .ok []
  | .plain text :: rest => (shownParts begun rest).map fun shown => shownPart text ++ shown
  | .tag body :: rest => (stylesAfter begun body).bind fun begun => shownParts begun rest

/-- A marked up text as a console without colours shows it. -/
def unmarked (markup : String) : Except Fault (List Char) :=
  shownParts [] (markupParts markup.toList)

/-- The handler that writes on a console: it takes the lines that can be read as marked up
text. -/
def handler : LogHandler := ⟨fun line => (unmarked line.message).isOk⟩

/-! ### Escaping -/

/-- A text with a backslash more before every tag, and twice as many as were there. -/
def escapedFrom (slashes : Nat) (cs : List Char) : List Char :=
  match cs with
  | [] => backslashes slashes
  | c :: rest =>
    if c == '\\' then escapedFrom (slashes + 1) rest
    else if c == '[' then
      match h : tagBody? rest with
      | some (body, after) =>
        have := length_of_tagBody? h
        backslashes (2 * slashes + 1) ++ '[' :: body ++ ']' :: escapedFrom 0 after
      | none => backslashes slashes ++ c :: escapedFrom 0 rest
    else backslashes slashes ++ c :: escapedFrom 0 rest
termination_by cs.length

/-- A text as markup that shows it; a single backslash at its end is doubled, so
that it does not meet a tag that follows. -/
def escapeMarkup (text : String) : String :=
  let escaped := escapedFrom 0 text.toList
  String.ofList <| match escaped.reverse with
    | '\\' :: '\\' :: _ => escaped
    | '\\' :: _ => escaped ++ ['\\']
    | _ => escaped

end RelationalSearch.Console
