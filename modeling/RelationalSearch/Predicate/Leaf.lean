import RelationalSearch.Predicate
import RelationalSearch.Text.Alphanumeric
import RelationalSearch.Text.Blank
import RelationalSearch.Text.Digits
import RelationalSearch.Value.Text

/-!
# The comparisons of one column

A value given for a column becomes a comparison, a group of alternatives, or
nothing. A word is never compared with a column that holds no text; a loose
comparison looks for the letters and numerals of the value, in order, with
anything between them.
-/

namespace RelationalSearch

/-! ### Numbers and words -/

/-- Splits the decimal digits off the front of a text. -/
def spanDigits (cs : List Char) : List Char × List Char :=
  (cs.takeWhile Text.isDigitChar, cs.dropWhile Text.isDigitChar)

/-- Whether a text is a power of ten followed by white space, or white space
alone. -/
def isPowerThenBlank (cs : List Char) : Bool :=
  cs.all Text.isBlankChar ||
    match cs with
    | e :: rest =>
      (e == 'e' || e == 'E') &&
        (let digits := match rest with
          | s :: r => if s == '+' || s == '-' then r else rest
          | [] => []
        let parts := spanDigits digits
        !parts.1.isEmpty && parts.2.all Text.isBlankChar)
    | [] => false

/-- Whether a text is a number: a sign, digits with or without a point, a power
of ten, and white space on both sides. Digits of every script count. -/
def isNumericText (s : String) : Bool :=
  let cs := s.toList.dropWhile Text.isBlankChar
  let cs := match cs with
    | c :: rest => if c == '+' || c == '-' then rest else cs
    | [] => []
  let whole := spanDigits cs
  match whole.2 with
  | '.' :: rest =>
    let places := spanDigits rest
    (!whole.1.isEmpty || !places.1.isEmpty) && isPowerThenBlank places.2
  | rest => !whole.1.isEmpty && isPowerThenBlank rest

namespace Value

/-- Numbers and texts that are numbers; truth values are not. -/
def isNumeric : Value → Bool
  | int _ => true
  | float _ => true
  | str s => isNumericText s
  | _ => false

/-- Whether a value is a word and the column holds no text. -/
def isMisplacedWord (v : Value) (stringLike : Bool) : Bool :=
  match v with
  | str s => !stringLike && !isNumericText s
  | _ => false

/-- A truth value as the number that columns hold for it. -/
def asStored : Value → Value
  | bool b => int (if b then 1 else 0)
  | v => v

end Value

/-! ### Loose patterns -/

/-- The pattern of a text: its letters and numerals in order, with wildcards
between and around them; no pattern when there are none. -/
def looseChars (cs : List Char) : List Char :=
  let kept := cs.filter Text.isAlphanumericChar
  if kept.isEmpty then [] else '%' :: kept.flatMap fun c => [c, '%']

/-- The loose pattern of a value. -/
def Value.likePattern (v : Value) : String := String.ofList (looseChars v.shown.toList)

/-! ### Comparisons -/

namespace Condition

/-- A column equals a value. -/
def equal (column : String) (v : Value) : Condition := ⟨column, .equal, v⟩

/-- A column has no value. -/
def isNull (column : String) : Condition := ⟨column, .isNull, .null⟩

/-- The comparison of a column with a single value, if there is any. -/
def make? (column : String) (v : Value) (stringLike like : Bool) : Option Condition :=
  if v.isMisplacedWord stringLike then none
  else match v with
    | .null => some (isNull column)
    | .bool _ => some (equal column v.asStored)
    | _ =>
      if like then
        let pattern := v.likePattern
        if pattern.isEmpty then none else some ⟨column, .like, .str pattern⟩
      else some (equal column v)

end Condition

namespace Group

/-- A column matches one of several values loosely. -/
def anyLike (column : String) (values : List Value) (stringLike : Bool) : Group :=
  of .or ((values.filterMap fun v => Condition.make? column v stringLike true).map .condition)

/-- A column equals one of several values; no value among them is an alternative
of its own. -/
def anyEqual (column : String) (values : List Value) (stringLike : Bool) : Group :=
  let usable := values.filter fun v => !v.isMisplacedWord stringLike
  let isNull : Value → Bool := fun v => match v with | .null => true | _ => false
  let kept := (usable.filter fun v => !isNull v).map Value.asStored
  of .or
    ((if kept.isEmpty then [] else [.condition ⟨column, .oneOf, .list kept⟩])
      ++ (if usable.any isNull then [.condition (Condition.isNull column)] else []))

end Group

end RelationalSearch
