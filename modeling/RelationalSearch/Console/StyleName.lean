import RelationalSearch.Text.Blank
import RelationalSearch.Text.CaseMapping
import RelationalSearch.Text.Split

/-!
# Names of styles

A style is named by its attributes and colours, in any order and in short or long
words; `b red`, `red bold` and `BOLD red` are one style. The normal form has the
attributes in a fixed order and in long words, then the colour and the background.
A name that is no style is its own normal form, in small letters.
-/

namespace RelationalSearch.Console

/-- The words for attributes, with the attribute that each of them names. -/
def attributeWords : List (String × String) :=
  [("dim", "dim"), ("d", "dim"), ("bold", "bold"), ("b", "bold"), ("italic", "italic"),
    ("i", "italic"), ("underline", "underline"), ("u", "underline"), ("blink", "blink"),
    ("blink2", "blink2"), ("reverse", "reverse"), ("r", "reverse"), ("conceal", "conceal"),
    ("c", "conceal"), ("strike", "strike"), ("s", "strike"), ("underline2", "underline2"),
    ("uu", "underline2"), ("frame", "frame"), ("encircle", "encircle"), ("overline", "overline"),
    ("o", "overline")]

/-- The attributes, in the order of the normal form. -/
def attributeOrder : List String :=
  ["bold", "dim", "italic", "underline", "blink", "blink2", "reverse", "conceal", "strike",
    "underline2", "frame", "encircle", "overline"]

/-- The names of colours. -/
def colourNames : List String :=
  ["black", "red", "green", "yellow", "blue", "magenta", "cyan", "white", "bright_black",
   "bright_red", "bright_green", "bright_yellow", "bright_blue", "bright_magenta", "bright_cyan",
   "bright_white", "grey0", "gray0", "navy_blue", "dark_blue", "blue3", "blue1", "dark_green",
   "deep_sky_blue4", "dodger_blue3", "dodger_blue2", "green4", "spring_green4", "turquoise4",
   "deep_sky_blue3", "dodger_blue1", "green3", "spring_green3", "dark_cyan", "light_sea_green",
   "deep_sky_blue2", "deep_sky_blue1", "spring_green2", "cyan3", "dark_turquoise", "turquoise2",
   "green1", "spring_green1", "medium_spring_green", "cyan2", "cyan1", "dark_red", "deep_pink4",
   "purple4", "purple3", "blue_violet", "orange4", "grey37", "gray37", "medium_purple4",
   "slate_blue3", "royal_blue1", "chartreuse4", "dark_sea_green4", "pale_turquoise4",
   "steel_blue", "steel_blue3", "cornflower_blue", "chartreuse3", "cadet_blue", "sky_blue3",
   "steel_blue1", "pale_green3", "sea_green3", "aquamarine3", "medium_turquoise", "chartreuse2",
   "sea_green2", "sea_green1", "aquamarine1", "dark_slate_gray2", "dark_magenta", "dark_violet",
   "purple", "light_pink4", "plum4", "medium_purple3", "slate_blue1", "yellow4", "wheat4",
   "grey53", "gray53", "light_slate_grey", "light_slate_gray", "medium_purple",
   "light_slate_blue", "dark_olive_green3", "dark_sea_green", "light_sky_blue3", "sky_blue2",
   "dark_sea_green3", "dark_slate_gray3", "sky_blue1", "chartreuse1", "light_green",
   "pale_green1", "dark_slate_gray1", "red3", "medium_violet_red", "magenta3", "dark_orange3",
   "indian_red", "hot_pink3", "medium_orchid3", "medium_orchid", "medium_purple2",
   "dark_goldenrod", "light_salmon3", "rosy_brown", "grey63", "gray63", "medium_purple1",
   "gold3", "dark_khaki", "navajo_white3", "grey69", "gray69", "light_steel_blue3",
   "light_steel_blue", "yellow3", "dark_sea_green2", "light_cyan3", "light_sky_blue1",
   "green_yellow", "dark_olive_green2", "dark_sea_green1", "pale_turquoise1", "deep_pink3",
   "magenta2", "hot_pink2", "orchid", "medium_orchid1", "orange3", "light_pink3", "pink3",
   "plum3", "violet", "light_goldenrod3", "tan", "misty_rose3", "thistle3", "plum2", "khaki3",
   "light_goldenrod2", "light_yellow3", "grey84", "gray84", "light_steel_blue1", "yellow2",
   "dark_olive_green1", "honeydew2", "light_cyan1", "red1", "deep_pink2", "deep_pink1",
   "magenta1", "orange_red1", "indian_red1", "hot_pink", "dark_orange", "salmon1", "light_coral",
   "pale_violet_red1", "orchid2", "orchid1", "orange1", "sandy_brown", "light_salmon1",
   "light_pink1", "pink1", "plum1", "gold1", "navajo_white1", "misty_rose1", "thistle1",
   "yellow1", "light_goldenrod1", "khaki1", "wheat1", "cornsilk1", "grey100", "gray100", "grey3",
   "gray3", "grey7", "gray7", "grey11", "gray11", "grey15", "gray15", "grey19", "gray19",
   "grey23", "gray23", "grey27", "gray27", "grey30", "gray30", "grey35", "gray35", "grey39",
   "gray39", "grey42", "gray42", "grey46", "gray46", "grey50", "gray50", "grey54", "gray54",
   "grey58", "gray58", "grey62", "gray62", "grey66", "gray66", "grey70", "gray70", "grey74",
   "gray74", "grey78", "gray78", "grey82", "gray82", "grey85", "gray85", "grey89", "gray89",
   "grey93", "gray93"]

/-- A decimal number up to 255. -/
def isColourNumber (cs : List Char) : Bool :=
  !cs.isEmpty && cs.all Char.isDigit && cs.foldl (fun n c => 10 * n + (c.toNat - 48)) 0 ≤ 255

/-- The text between a beginning and a closing parenthesis. -/
def parenthesized? (beginning : String) (cs : List Char) : Option (List Char) :=
  if cs.take beginning.length == beginning.toList && cs.getLast? == some ')' then
    some (cs.drop beginning.length).dropLast
  else none

/-- Whether a word in small letters is a colour: a name, a number of a palette, or
three parts. -/
def isColour (word : String) : Bool :=
  word == "default" || colourNames.contains word ||
    (match word.toList with
      | '#' :: digits =>
        digits.length == 6 && digits.all fun c => c.isDigit || ('a' ≤ c && c ≤ 'f')
      | cs =>
        match parenthesized? "color(" cs, parenthesized? "rgb(" cs with
        | some number, _ => number.length ≤ 3 && isColourNumber number
        | none, some parts =>
          let parts := Text.splitAtEach ',' parts
          parts.length == 3 && parts.all isColourNumber
        | none, none => false)

/-- What a name of a style says. -/
structure StyleName where
  attributes : List (String × Bool)
  colour : Option String
  background : Option String
  link : Option String
  deriving DecidableEq, Repr, Inhabited

namespace StyleName

/-- The style that names nothing. -/
def plain : StyleName := ⟨[], none, none, none⟩

/-- A style with one more attribute on or off. -/
def withAttribute (s : StyleName) (trait : String) (on : Bool) : StyleName :=
  { s with attributes := (trait, on) :: s.attributes.filter fun a => a.1 != trait }

/-- A style with one more word: an attribute or a colour. -/
def withWord? (s : StyleName) (word : String) : Option StyleName :=
  let word := Text.toSmall word
  match attributeWords.lookup word with
  | some trait => some (s.withAttribute trait true)
  | none =>
    if word != "on" && word != "not" && word != "link" && isColour word then
      some { s with colour := some word }
    else none

/-- The style that words name, after what was said before. -/
def read? (s : StyleName) : List String → Option StyleName
  | [] => some s
  | [word] => s.withWord? word
  | word :: next :: rest =>
    match Text.toSmall word with
    | "on" =>
      if isColour (Text.toSmall next) then
        read? { s with background := some (Text.toSmall next) } rest
      else none
    | "not" =>
      match attributeWords.lookup next with
      | some trait => read? (s.withAttribute trait false) rest
      | none => none
    | "link" => read? { s with link := some next } rest
    | _ =>
      match s.withWord? word with
      | some s => read? s (next :: rest)
      | none => none

/-- The words of the normal form. -/
def words (s : StyleName) : List String :=
  (attributeOrder.flatMap fun trait =>
    match s.attributes.lookup trait with
    | some true => [trait]
    | some false => ["not", trait]
    | none => [])
    ++ s.colour.toList ++ (s.background.toList.flatMap fun c => ["on", c])
    ++ (s.link.toList.flatMap fun target => ["link", target])

/-- The normal form of a name of a style. -/
def normal (name : String) : String :=
  let other := Text.toSmall (Text.trim name)
  if Text.trim name == "none" || name.isEmpty then "none"
  else
    match plain.read? ((Text.words name.toList).map String.ofList) with
    | some s => if s.words.isEmpty then "none" else " ".intercalate s.words
    | none => other

end StyleName

end RelationalSearch.Console
