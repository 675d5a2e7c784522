import QueryCriteria.Literal.Date
import QueryCriteria.Literal.Delimited
import QueryCriteria.Text.Segment
import QueryCriteria.Value

/-!
Typed values from plain text.  A text is read in a fixed order as a regular expression,
a quoted text, a boolean, a date and a number; the first reading that succeeds gives the
value, and a text that none of them can read is a value of its own.  Readings can be
switched off, all but that of quoted texts.  Only the reading of a regular expression can
meet a fault.
-/
namespace QueryCriteria

inductive Reader where
  | regex
  | quoted
  | boolean
  | date
  | number
  deriving DecidableEq, Repr

namespace Reader

def all : List Reader := [regex, quoted, boolean, date, number]

def name : Reader → String
  | regex => "regex"
  | quoted => "quoted"
  | boolean => "boolean"
  | date => "date"
  | number => "number"

/-- A text between slashes that is no regular expression has no value here. -/
def readRegex (text : List Char) : Except Fault (Option Value) :=
  match Literal.readRegex? text with
  | none => .ok none
  | some (pattern, ignoreCase) => (Regex.compile pattern ignoreCase).map (·.map Value.regex)

def readBoolean? (text : List Char) : Option Value :=
  if text = ['t', 'r', 'u', 'e'] then some (.bool true)
  else if text = ['f', 'a', 'l', 's', 'e'] then some (.bool false)
  else none

/-- Integers stay exact; a number with a point or a power of ten has to be finite. -/
def readNumber? (text : List Char) : Option Value :=
  (Numeral.read? text).bind fun n =>
    if n.isInteger then n.toInt?.map Value.int
    else if (Binary64.ofNumeral n).isFinite then some (.float (Binary64.ofNumeral n))
    else none

/-- The value of a text that is a literal of one kind. -/
def readWhole : Reader → List Char → Except Fault (Option Value)
  | regex, text => readRegex text
  | quoted, text => .ok ((Literal.readQuoted? text).map fun inner => .str (String.ofList inner))
  | boolean, text => .ok (readBoolean? text)
  | date, text => .ok (((DateText.read? text).bind DateText.moment?).map Value.date)
  | number, text => .ok (readNumber? text)

/-- Four characters are never a date, because a year alone is more likely a number.  A
line break at the end of the text is not part of a literal. -/
def read (reader : Reader) (text : List Char) : Except Fault (Option Value) :=
  if reader = date ∧ text.length = 4 then .ok none
  else reader.readWhole (Text.dropFinalNewline text)

/-- The value that the first of the readers gives that can read the text. -/
def readFirst (text : List Char) : List Reader → Except Fault (Option Value)
  | [] => .ok none
  | reader :: readers =>
    match reader.read text with
    | .ok none => readFirst text readers
    | found => found

end Reader

/-- Which readings are in use. -/
structure Switches where
  regexes : Bool := true
  booleans : Bool := true
  dates : Bool := true
  numbers : Bool := true
  deriving DecidableEq, Repr

namespace Switches

def allows (s : Switches) : Reader → Bool
  | .regex => s.regexes
  | .quoted => true
  | .boolean => s.booleans
  | .date => s.dates
  | .number => s.numbers

def readers (s : Switches) : List Reader := Reader.all.filter s.allows

/-- The readings that are switched off, by name. -/
def disabled (s : Switches) : List Reader := Reader.all.filter fun r => !s.allows r

/-- The typed value of a text. -/
def coerce (s : Switches) (text : String) : Except Fault Value :=
  (Reader.readFirst text.toList s.readers).map (·.getD (.str text))

end Switches

/-- A value and whether an exclamation mark stood before it. -/
structure Token where
  negated : Bool
  value : Value

namespace Switches

/-- The typed value of a token; one leading exclamation mark negates it. -/
def token (s : Switches) (text : String) : Except Fault Token :=
  match text.toList with
  | '!' :: rest => (s.coerce (String.ofList rest)).map fun value => { negated := true, value }
  | _ => (s.coerce text).map fun value => { negated := false, value }

end Switches
end QueryCriteria
