import RelationalSearch.Console.Shortcode.Early
import RelationalSearch.Console.Shortcode.Late
import RelationalSearch.Console.Shortcode.Middle
import RelationalSearch.Text.CaseMapping
import RelationalSearch.Text.Split

/-!
# Pictures by their short names

A short name between colons stands for a picture: `:cat:`. After the name there
may be `-text` or `-emoji`, which asks for the one or the other form of the
picture. What is no short name stays as it is, with its colons.
-/

namespace RelationalSearch.Console

/-- All short names and their pictures, in turn. -/
def shortcodeWords : List (List Char) :=
  (earlyShortcodes ++ middleShortcodes ++ lateShortcodes).flatMap fun row =>
    Text.splitAtEach ' ' row.toList

/-- The word after a word, where words stand in pairs. -/
def follower? (name : List Char) : List (List Char) → Option (List Char)
  | word :: next :: rest => if word == name then some next else follower? name rest
  | _ => none

/-- The picture of a short name. -/
def picture? (name : List Char) : Option (List Char) :=
  follower? (Text.toSmall (String.ofList name)).toList shortcodeWords

/-- The forms of pictures, by their suffix, with the character that asks for each. -/
def pictureForms : List (List Char × Char) :=
  [("-emoji".toList, Char.ofNat 0xFE0F), ("-text".toList, Char.ofNat 0xFE0E)]

/-- What stands for the text between two colons: a picture, if it is a short name
with or without a form. -/
def pictured? (body : List Char) : Option (List Char) :=
  match pictureForms.find? fun form => form.1.isSuffixOf body with
  | some (suffix, form) =>
    (picture? (body.take (body.length - suffix.length))).map fun picture => picture ++ [form]
  | none => picture? body

/-- Whether a character can stand in a short name. -/
def isShortcodeChar (c : Char) : Bool := c != ':' && !Text.isBlankChar c

/-- A text read from one end to the other, with the characters since the last open
colon held back, if there is one. -/
def withPictures (held : Option (List Char)) : List Char → List Char
  | [] =>
    match held with
    | some body => ':' :: body
    | none => []
  | c :: rest =>
    match held with
    | none => if c == ':' then withPictures (some []) rest else c :: withPictures none rest
    | some body =>
      if c == ':' then
        (match pictured? body with
          | some picture => picture
          | none => ':' :: body ++ [':']) ++ withPictures none rest
      else if isShortcodeChar c then withPictures (some (body ++ [c])) rest
      else (':' :: body) ++ c :: withPictures none rest

/-- A text with the pictures that are named in it. -/
def pictured (cs : List Char) : List Char := withPictures none cs

/-- A text without colons names no pictures. -/
theorem pictured_of_forall_ne {cs : List Char} (h : ∀ c ∈ cs, c ≠ ':') : pictured cs = cs := by
  unfold pictured
  induction cs with
  | nil => rfl
  | cons c rest ih =>
    have hc : (c == ':') = false := by simpa using h c (by simp)
    rw [withPictures]
    simp [hc, ih fun d hd => h d (by simp [hd])]

end RelationalSearch.Console
