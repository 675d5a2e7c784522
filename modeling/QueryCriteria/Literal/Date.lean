import QueryCriteria.Moment
import QueryCriteria.Text.Digit

/-!
Date literals: a year, a month after it, a day after that, and a time of day with a zone.
Each part needs the ones before it.  `read?` takes the parts as they are written;
`moment?` finds the instant that they denote, in universal time.
-/
namespace QueryCriteria

structure ClockText where
  hour : List Char
  minute : List Char
  second : Option (List Char)
  fraction : Option (List Char)
  zone : List Char
  deriving DecidableEq

structure DateText where
  year : List Char
  month : Option (List Char)
  day : Option (List Char)
  clock : Option ClockText
  deriving DecidableEq

namespace DateText

open Text

def isDigit (c : Char) : Bool := (digit? c).isSome

/-- The second digit of a number up to 29, 23 or 59 may come from any script; all other
digits that are restricted are ASCII. -/
def isMonth (a b : Char) : Bool :=
  (a == '0' && '1' ≤ b && b ≤ '9') || (a == '1' && '0' ≤ b && b ≤ '2')

def isDay (a b : Char) : Bool :=
  (a == '0' && '1' ≤ b && b ≤ '9') || ((a == '1' || a == '2') && isDigit b) ||
    (a == '3' && (b == '0' || b == '1'))

def isHour (a b : Char) : Bool :=
  ((a == '0' || a == '1') && isDigit b) || (a == '2' && '0' ≤ b && b ≤ '3')

def isSixtieth (a b : Char) : Bool := '0' ≤ a && a ≤ '5' && isDigit b

def spanTwo? (p : Char → Char → Bool) : List Char → Option (List Char × List Char)
  | a :: b :: cs => if p a b then some ([a, b], cs) else none
  | _ => none

def spanYear? : List Char → Option (List Char × List Char)
  | a :: b :: c :: d :: cs =>
    if isDigit a && isDigit b && isDigit c && isDigit d then some ([a, b, c, d], cs) else none
  | _ => none

/-- A zone designator that is the whole text. -/
def readZone? : List Char → Option (List Char)
  | ['Z'] => some ['Z']
  | sign :: cs =>
    if sign = '+' ∨ sign = '-' then
      (spanTwo? isHour cs).bind fun (hour, cs) =>
        match cs with
        | ':' :: cs =>
          match spanTwo? isSixtieth cs with
          | some (minute, []) => some (sign :: (hour ++ ':' :: minute))
          | _ => none
        | cs =>
          match spanTwo? isSixtieth cs with
          | some (minute, []) => some (sign :: (hour ++ minute))
          | _ => none
    else none
  | [] => none

/-- Seconds are optional, and so is their fraction. -/
def readSeconds? (hour minute : List Char) : List Char → Option ClockText
  | ':' :: cs =>
    (spanTwo? isSixtieth cs).bind fun (second, cs) =>
      match cs with
      | '.' :: cs =>
        if cs.takeWhile isDigit = [] then none
        else
          (readZone? (cs.dropWhile isDigit)).map fun zone =>
            { hour, minute, second := some second, fraction := some (cs.takeWhile isDigit), zone }
      | cs =>
        (readZone? cs).map fun zone =>
          { hour, minute, second := some second, fraction := none, zone }
  | cs => (readZone? cs).map fun zone => { hour, minute, second := none, fraction := none, zone }

def readClock? (cs : List Char) : Option ClockText :=
  (spanTwo? isHour cs).bind fun (hour, cs) =>
    match cs with
    | ':' :: cs => (spanTwo? isSixtieth cs).bind fun (minute, cs) => readSeconds? hour minute cs
    | _ => none

def readDay? (year month : List Char) : List Char → Option DateText
  | [] => some { year, month := some month, day := none, clock := none }
  | '-' :: cs =>
    (spanTwo? isDay cs).bind fun (day, cs) =>
      match cs with
      | [] => some { year, month := some month, day := some day, clock := none }
      | 'T' :: cs =>
        (readClock? cs).map fun clock =>
          { year, month := some month, day := some day, clock := some clock }
      | _ => none
  | _ => none

def read? (text : List Char) : Option DateText :=
  (spanYear? text).bind fun (year, cs) =>
    match cs with
    | [] => some { year, month := none, day := none, clock := none }
    | '-' :: cs => (spanTwo? isMonth cs).bind fun (month, cs) => readDay? year month cs
    | _ => none

/-- The parts in the order of the literal: year, month, day, hour, minute, second,
fraction and zone. -/
def parts (d : DateText) : List (Option (List Char)) :=
  [some d.year, d.month, d.day, d.clock.map (·.hour), d.clock.map (·.minute),
    d.clock.bind (·.second), d.clock.bind (·.fraction), d.clock.map (·.zone)]

/-- The number that the digits of a part write. -/
def number (cs : List Char) : Nat := ofDigits (cs.filterMap digit?)

/-- The minutes that a zone is ahead of universal time. -/
def offset : List Char → Int
  | '-' :: cs => -zoneMinutes cs
  | '+' :: cs => zoneMinutes cs
  | _ => 0
where
  zoneMinutes (cs : List Char) : Int :=
    let digits := cs.filter (· ≠ ':')
    number (digits.take 2) * 60 + number (digits.drop 2)

/-- A part that is not written is the first of its period. -/
def partOr (first : Nat) (part : Option (List Char)) : Nat := (part.map number).getD first

/-- The fraction in microseconds; further digits are cut off. -/
def microseconds (fraction : List Char) : Nat :=
  number ((fraction ++ List.replicate 6 '0').take 6)

/-- The date and the time of day on the clock of the zone. -/
def localMoment (d : DateText) : Moment :=
  { date := { year := number d.year, month := partOr 1 d.month, day := partOr 1 d.day }
    hour := partOr 0 (d.clock.map (·.hour))
    minute := partOr 0 (d.clock.map (·.minute))
    second := partOr 0 (d.clock.bind (·.second))
    microsecond := microseconds ((d.clock.bind (·.fraction)).getD [])
    offset := some (((d.clock.map (·.zone)).map offset).getD 0) }

/-- The instant in universal time, if the calendar has the date and the instant. -/
def moment? (d : DateText) : Option Moment :=
  if d.localMoment.date.Valid then d.localMoment.utc? else none

end DateText

namespace Moment

/-- The moment that `text` writes; one without a zone is read as if it had one. -/
def ofText? (text : List Char) : Option Moment :=
  match DateText.read? text with
  | some d => some d.localMoment
  | none =>
    (DateText.read? (text ++ ['Z'])).map fun d => { d.localMoment with offset := none }

end Moment
end QueryCriteria
