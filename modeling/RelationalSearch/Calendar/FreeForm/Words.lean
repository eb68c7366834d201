/-!
# The words of dates

Words that may stand in a date in free form, without regard to case: names of
days and months, units of time, halves of the day, names of universal time, and
words and signs that only join others.
-/

namespace RelationalSearch.FreeForm

/-- A word by which names are looked up. -/
def folded (s : String) : String := String.ofList (s.toList.map Char.toLower)

/-- The place of a word in a list of lists of names. -/
def placeIn (names : List (List String)) (word : String) : Option Nat :=
  names.findIdx? fun ns => ns.contains (folded word)

/-- The days of the week, from Monday. -/
def weekdayNames : List (List String) :=
  [["mon", "monday"], ["tue", "tuesday"], ["wed", "wednesday"], ["thu", "thursday"],
   ["fri", "friday"], ["sat", "saturday"], ["sun", "sunday"]]

/-- The months. -/
def monthNames : List (List String) :=
  [["jan", "january"], ["feb", "february"], ["mar", "march"], ["apr", "april"], ["may"],
   ["jun", "june"], ["jul", "july"], ["aug", "august"], ["sep", "sept", "september"],
   ["oct", "october"], ["nov", "november"], ["dec", "december"]]

/-- Hours, minutes and seconds. -/
def unitNames : List (List String) :=
  [["h", "hour", "hours"], ["m", "minute", "minutes"], ["s", "second", "seconds"]]

/-- The halves of the day. -/
def halfNames : List (List String) := [["am", "a"], ["pm", "p"]]

/-- Words and signs that mean nothing by themselves. -/
def joiningWords : List String :=
  [" ", ".", ",", ";", "-", "/", "'", "at", "on", "and", "ad", "m", "t", "of", "st", "nd", "rd", "th"]

/-- The day of the week that a word names, Monday being 0. -/
def weekday? (word : String) : Option Nat := placeIn weekdayNames word

/-- The month that a word names, from 1. -/
def month? (word : String) : Option Nat := (placeIn monthNames word).map (· + 1)

/-- The unit that a word names: hours 0, minutes 1, seconds 2. -/
def unit? (word : String) : Option Nat := placeIn unitNames word

/-- The half of the day that a word names: morning 0, afternoon 1. -/
def half? (word : String) : Option Nat := placeIn halfNames word

/-- Whether a word only joins others. -/
def isJoining (word : String) : Bool := joiningWords.contains (folded word)

/-- Whether a word says that a year follows a month. -/
def isPertaining (word : String) : Bool := folded word == "of"

/-- Whether a word names universal time. -/
def isUniversal (word : String) : Bool := ["utc", "gmt", "z"].contains (folded word)

end RelationalSearch.FreeForm
