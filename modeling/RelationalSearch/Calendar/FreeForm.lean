import RelationalSearch.Calendar.FreeForm.Parts
import RelationalSearch.Calendar.FreeForm.Token

/-!
# Dates and times in free form

A text such as `May 1, 2024 3:04 PM` or `20240501T101500+0200` is read token by
token. Each step looks at one token and those around it, adds what it learns to a
`Reading`, and says at which token the next step begins; a token that fits
nowhere makes the whole text unreadable. What the text leaves open is taken from
a given day at midnight, and a year of two digits is one near a given year.
-/

namespace RelationalSearch.FreeForm

/-- What has been learnt from the tokens so far. -/
structure Reading where
  parts : DateParts
  weekday : Option Nat
  hour : Option Nat
  minute : Option Nat
  second : Option Nat
  microsecond : Option Nat
  zoneName : Option String
  offset : Option Int
  deriving Repr, Inhabited

/-- Nothing learnt yet. -/
def Reading.start : Reading :=
  ⟨DateParts.empty, none, none, none, none, none, none, none⟩

/-- The tokens of a text, a reading, and the place of the next token. -/
structure Progress where
  tokens : List String
  next : Nat
  reading : Reading
  deriving Repr, Inhabited

/-- What a text is read against: the day that gives what the text leaves out, and the
year near which a year of two digits lies. -/
structure Origin where
  day : Date
  year : Nat
  deriving DecidableEq, Repr, Inhabited

/-! ### Two-digit years -/

/-- The full year of a year in two digits: the one nearest to a given year, from
fifty years before to forty-nine after. -/
def fullYear (thisYear year : Nat) : Nat :=
  if 100 ≤ year then year
  else
    let near := year + thisYear / 100 * 100
    if thisYear + 50 ≤ near then near - 100
    else if near + 50 < thisYear then near + 100
    else near

/-! ### Parts of times -/

/-- The hour on a clock of twenty-four hours. -/
def hourInHalf (hour half : Nat) : Nat :=
  if hour < 12 && half == 1 then hour + 12 else if hour == 12 && half == 0 then 0 else hour

/-- Minutes, and the seconds that a fraction of a minute gives. -/
def minuteAndSecond (n : Numeral) : Nat × Option Nat :=
  (n.whole, if n.hasRest then some n.sixtieths else none)

/-- Seconds and microseconds of a numeral given as text. -/
def secondAndMicrosecond? (token : String) : Option (Nat × Nat) :=
  let cs := token.toList
  match cs.dropWhile (· != '.') with
  | [] => (wholeNumber? token).map fun n => (n, 0)
  | _ :: places =>
    let micro := String.ofList ((places ++ List.replicate 6 '0').take 6)
    match wholeNumber? (String.ofList (cs.takeWhile (· != '.'))), wholeNumber? micro with
    | some whole, some micro => some (whole, micro)
    | _, _ => none

/-- Whether a token can be the name of a zone: the hour is known, no zone is, and
the token is short and all capitals. -/
def couldBeZone (r : Reading) (offset : Option Int) (token : String) : Bool :=
  r.hour.isSome && r.zoneName.isNone && offset.isNone && token.length ≤ 5
    && (token.toList.all (fun c => 'A' ≤ c && c ≤ 'Z') || token == "z")

/-! ### Numbers -/

/-- The place of the unit that belongs to a number: right after it, after a
blank, right before it, or, for the last token, before a blank. -/
def unitPlace? (tokens : List String) (i : Nat) : Option Nat :=
  let unitAt := fun j => ((tokens[j]?).bind unit?).isSome
  if unitAt (i + 1) then some (i + 1)
  else if tokens[i + 1]? == some " " && unitAt (i + 2) then some (i + 2)
  else if 0 < i && unitAt (i - 1) then some (i - 1)
  else if 1 < i && i + 1 == tokens.length && tokens[i - 1]? == some " " && unitAt (i - 2) then
    some (i - 2)
  else none

/-- Stores a number with a unit. -/
def Reading.withUnit? (r : Reading) (token : String) (n : Numeral) (unit : Nat) : Option Reading :=
  match unit with
  | 0 =>
    let r := { r with hour := some n.whole }
    some (if n.hasRest then { r with minute := some n.sixtieths } else r)
  | 1 =>
    let ms := minuteAndSecond n
    some { r with minute := some ms.1, second := ms.2 }
  | 2 => (secondAndMicrosecond? token).map fun s =>
      { r with second := some s.1, microsecond := some s.2 }
  | _ => some r

/-- The whole number in a part of a token. -/
def digitsIn? (token : String) (start stop : Nat) : Option Nat :=
  wholeNumber? (String.ofList ((token.toList.take stop).drop start))

/-- A part of a token. -/
def partOf (token : String) (start stop : Nat) : String :=
  String.ofList ((token.toList.take stop).drop start)

/-- A time written without colons, `HHMMSS` with or without a fraction. -/
def Reading.withCompactTime? (r : Reading) (token : String) : Option Reading := do
  let hour ← digitsIn? token 0 2
  let minute ← digitsIn? token 2 4
  let s ← secondAndMicrosecond? (partOf token 4 token.length)
  return { r with hour := some hour, minute := some minute, second := some s.1, microsecond := some s.2 }

/-- A date written without signs, `YYYYMMDD`, with or without hour, minute and
second. -/
def Reading.withCompactDate? (r : Reading) (token : String) : Option Reading := do
  let parts ← r.parts.addText? (partOf token 0 4) (some .year)
  let parts ← parts.addText? (partOf token 4 6) none
  let parts ← parts.addText? (partOf token 6 8) none
  let r := { r with parts := parts }
  if token.length ≤ 8 then return r
  else
    let hour ← digitsIn? token 8 10
    let minute ← digitsIn? token 10 12
    let r := { r with hour := some hour, minute := some minute }
    if token.length ≤ 12 then return r
    else return { r with second := some (← digitsIn? token 12 token.length) }

/-- A number followed by a colon: hours and minutes, perhaps seconds. The result
says how many tokens were used beyond the first. -/
def Reading.withColons? (r : Reading) (tokens : List String) (i : Nat) (n : Numeral) :
    Option (Reading × Nat) := do
  let ms := minuteAndSecond (← numeral? (← tokens[i + 2]?))
  let r := { r with hour := some n.whole, minute := some ms.1, second := ms.2 }
  match tokens[i + 3]?, tokens[i + 4]? with
  | some ":", some token =>
    let s ← secondAndMicrosecond? token
    return ({ r with second := some s.1, microsecond := some s.2 }, 4)
  | _, _ => return (r, 2)

/-- Adds a month by name, or a number given as text. -/
def DateParts.addNamed? (p : DateParts) (token : String) : Option DateParts :=
  match month? token with
  | some m => p.add? m (some .month)
  | none => p.addText? token none

/-- A number followed by a sign: day, month and year joined by that sign. -/
def Reading.withSigns? (r : Reading) (tokens : List String) (i : Nat) (token sign : String) :
    Option (Reading × Nat) := do
  let parts ← r.parts.addText? token none
  match tokens[i + 2]? with
  | none => return ({ r with parts := parts }, 1)
  | some second =>
    if isJoining second then return ({ r with parts := parts }, 1)
    else
      let parts ←
        if second.toList.all Text.isDigitSign then parts.addText? second none
        else (month? second).bind fun m => parts.add? m (some .month)
      if tokens[i + 3]? == some sign then
        let parts ← DateParts.addNamed? parts (← tokens[i + 4]?)
        return ({ r with parts := parts }, 4)
      else return ({ r with parts := parts }, 2)

/-- Reads a number. The result says how many tokens were used beyond it. -/
def Reading.withNumber? (r : Reading) (tokens : List String) (i : Nat) (token : String)
    (n : Numeral) : Option (Reading × Nat) :=
  let size := token.length
  let after := tokens[i + 1]?
  let beforeJoining := (after.map isJoining).getD true
  let beforeUnit := after == some ":" || (after.bind unit?).isSome
  if r.parts.values.length == 3 && (size == 2 || size == 4) && r.hour.isNone && !beforeUnit then do
    let r := { r with hour := some (← digitsIn? token 0 2) }
    if size == 4 then return ({ r with minute := some (← digitsIn? token 2 4) }, 0)
    else return (r, 0)
  else if size == 6 || (6 < size && token.toList.findIdx? (· == '.') == some 6) then
    if r.parts.values.isEmpty && !token.toList.contains '.' then do
      let parts ← r.parts.addText? (partOf token 0 2) none
      let parts ← parts.addText? (partOf token 2 4) none
      let parts ← parts.addText? (partOf token 4 6) none
      return ({ r with parts := parts }, 0)
    else (r.withCompactTime? token).map fun r => (r, 0)
  else if size == 8 || size == 12 || size == 14 then (r.withCompactDate? token).map fun r => (r, 0)
  else match unitPlace? tokens i with
    | some place => do
      let unit ← (tokens[place]?).bind unit?
      if i < place then return (← r.withUnit? token n unit, place - i)
      else return (← r.withUnit? token n (unit + 1), 0)
    | none =>
      if after == some ":" && (tokens[i + 2]?).isSome then r.withColons? tokens i n
      else if after == some "-" || after == some "/" || after == some "." then
        r.withSigns? tokens i token (after.getD "")
      else if beforeJoining then
        match (tokens[i + 2]?).bind half? with
        | some half => some ({ r with hour := some (hourInHalf n.whole half) }, 2)
        | none => (r.parts.addNumeral? n).map fun parts => ({ r with parts := parts }, 1)
      else match after.bind half? with
        | some half =>
          if n.whole < 24 then some ({ r with hour := some (hourInHalf n.whole half) }, 1)
          else if r.parts.couldBeDay n then
            (r.parts.addNumeral? n).map fun parts => ({ r with parts := parts }, 0)
          else none
        | none =>
          if r.parts.couldBeDay n then
            (r.parts.addNumeral? n).map fun parts => ({ r with parts := parts }, 0)
          else none

/-! ### Words and signs -/

/-- Reads the name of a month, and what is joined to it. -/
def Reading.withMonth? (r : Reading) (thisYear : Nat) (tokens : List String) (i month : Nat) :
    Option (Reading × Nat) := do
  let parts ← r.parts.add? month (some .month)
  match tokens[i + 1]? with
  | none => return ({ r with parts := parts }, 0)
  | some sign =>
    if sign == "-" || sign == "/" then
      let parts ← parts.addText? (← tokens[i + 2]?) none
      if tokens[i + 3]? == some sign then
        let parts ← parts.addText? (← tokens[i + 4]?) none
        return ({ r with parts := parts }, 4)
      else return ({ r with parts := parts }, 2)
    else
      match tokens[i + 2]?, tokens[i + 3]?, tokens[i + 4]? with
      | some of, some blank, some year =>
        if sign == " " && blank == " " && isPertaining of then
          match wholeNumber? year with
          | some y =>
            let y := fullYear thisYear y
            let parts ← parts.addText? (toString y) (some .year)
            return ({ r with parts := parts }, 4)
          | none => return ({ r with parts := parts }, 4)
        else return ({ r with parts := parts }, 0)
      | _, _, _ => return ({ r with parts := parts }, 0)

/-- Reads the name of a half of the day; the hour must be known and fit. -/
def Reading.withHalf? (r : Reading) (half : Nat) : Option Reading :=
  match r.hour with
  | some hour => if hour ≤ 12 then some { r with hour := some (hourInHalf hour half) } else none
  | none => none

/-- Reads the name of a zone. A sign after it is turned round: `GMT+3` is three
hours behind universal time. -/
def Progress.withZone (p : Progress) (token : String) : Progress :=
  let r := { p.reading with
    zoneName := some token, offset := if token == "z" then some 0 else none }
  match p.tokens[p.next + 1]? with
  | some sign =>
    if sign == "+" || sign == "-" then
      ⟨p.tokens.set (p.next + 1) (if sign == "+" then "-" else "+"), p.next + 1,
        { r with offset := none, zoneName := if isUniversal token then none else r.zoneName }⟩
    else ⟨p.tokens, p.next + 1, r⟩
  | none => ⟨p.tokens, p.next + 1, r⟩

/-- Reads an offset after its sign. The result says how many tokens were used
beyond the sign. -/
def offsetAfter? (tokens : List String) (i : Nat) : Option (Nat × Nat) := do
  let token ← tokens[i + 1]?
  if token.length == 4 then
    let hours ← digitsIn? token 0 2
    let minutes ← digitsIn? token 2 4
    return (hours * 3600 + minutes * 60, 1)
  else if tokens[i + 2]? == some ":" then
    let hours ← wholeNumber? token
    let minutes ← wholeNumber? (← tokens[i + 3]?)
    return (hours * 3600 + minutes * 60, 3)
  else if token.length ≤ 2 then
    let hours ← wholeNumber? token
    return (hours * 3600, 1)
  else none

/-- Reads an offset and a zone name in parentheses after it. -/
def Reading.withOffset? (r : Reading) (tokens : List String) (i : Nat) (sign : String) :
    Option (Reading × Nat) := do
  let (size, used) ← offsetAfter? tokens i
  let offset : Int := if sign == "+" then size else -(size : Int)
  let r := { r with offset := some offset }
  let j := i + used - 1
  match tokens[j + 2]?, tokens[j + 3]?, tokens[j + 4]?, tokens[j + 5]? with
  | some joining, some "(", some name, some ")" =>
    if isJoining joining && 3 ≤ name.length && couldBeZone r none name then
      return ({ r with zoneName := some name }, used + 4)
    else return (r, used)
  | _, _, _, _ => return (r, used)

/-! ### One step -/

/-- Whether a token is a number that is none. -/
def isStrangeNumber (token : String) : Bool := ["nan", "inf", "infinity"].contains (folded token)

/-- Moves on by what was used beyond the current token. -/
def Progress.after (p : Progress) (result : Reading × Nat) : Progress :=
  ⟨p.tokens, p.next + result.2 + 1, result.1⟩

/-- Reads the next token. -/
def Progress.step? (thisYear : Nat) (p : Progress) : Option Progress := do
  let token ← p.tokens[p.next]?
  let r := p.reading
  if isStrangeNumber token then none
  else match numeral? token with
    | some n => (r.withNumber? p.tokens p.next token n).map p.after
    | none =>
      match weekday? token, month? token, half? token with
      | some day, _, _ => some (p.after ({ r with weekday := some day }, 0))
      | none, some month, _ => (r.withMonth? thisYear p.tokens p.next month).map p.after
      | none, none, some half => (r.withHalf? half).map fun r => p.after (r, 0)
      | none, none, none =>
        if couldBeZone r r.offset token then some (p.withZone token)
        else if r.hour.isSome && (token == "+" || token == "-") then
          (r.withOffset? p.tokens p.next token).map p.after
        else if isJoining token then some (p.after (r, 0))
        else none

/-- Reads all tokens; each step spends one unit of fuel. -/
def Progress.finish? (thisYear : Nat) : (fuel : Nat) → Progress → Option Reading
  | 0, p => if p.tokens.length ≤ p.next then some p.reading else none
  | fuel + 1, p =>
    if p.tokens.length ≤ p.next then some p.reading
    else match p.step? thisYear with
      | some q => Progress.finish? thisYear fuel q
      | none => none

/-! ### The date that is meant -/

/-- The next day, from a given one, that falls on a day of the week. -/
def onWeekday? (d : Date) (weekday : Nat) : Option Date :=
  let next := Date.ofDayNumber (d.dayNumber + (7 + weekday - d.weekday) % 7)
  if lastYear < next.year then none else some next

/-- The offset that was written, with universal time known by its names. -/
def Reading.meantOffset (r : Reading) : Option Int :=
  match r.zoneName with
  | some name =>
    if name == "Z" || name == "z" then some 0
    else if r.offset != some 0 && isUniversal name then some 0
    else r.offset
  | none => r.offset

/-- Whether anything was learnt at all. -/
def Reading.isEmpty (r : Reading) (parts : DateParts.Resolved) : Bool :=
  parts.year.isNone && parts.month.isNone && parts.day.isNone && r.weekday.isNone && r.hour.isNone
    && r.minute.isNone && r.second.isNone && r.microsecond.isNone && r.zoneName.isNone
    && r.offset.isNone

/-- The time that a reading means, seen from an origin. -/
def Reading.toTime? (r : Reading) (origin : Origin) : Option OffsetTime := do
  let parts ← r.parts.resolve
  if r.isEmpty parts then none
  else
    let year := match parts.year with
      | some y => if r.parts.hasCentury then y else fullYear origin.year y
      | none => origin.day.year
    let month := parts.month.getD origin.day.month
    if !(1 ≤ month && month ≤ 12) then none
    else
      let day := match parts.day with
        | some d => d
        | none => min origin.day.day (Date.daysInMonth year month)
      let date : Date := ⟨year, month, day⟩
      let time : TimeOfDay :=
        ⟨r.hour.getD 0, r.minute.getD 0, r.second.getD 0, r.microsecond.getD 0⟩
      if !(date.isValid && time.isValid) then none
      else
        let date ← match r.weekday, parts.day with
          | some w, none => onWeekday? date w
          | _, _ => some date
        return ⟨⟨date, time⟩, r.meantOffset⟩

/-- Reads a date and time in free form, seen from an origin. -/
def read? (text : String) (origin : Origin) : Option OffsetTime :=
  let ts := tokens text
  match Progress.finish? origin.year (ts.length + 1) ⟨ts, 0, Reading.start⟩ with
  | some r => r.toTime? origin
  | none => none

end RelationalSearch.FreeForm
