import QueryCriteria.Calendar
import QueryCriteria.Number.Numeral

/-!
Dates with a time of day, and the instants that they denote.  An instant is a number of
microseconds since the start of year 1 in universal time; `Moment.utc?` gives it a date
and a time again as long as it falls in years 1 to 9999.
-/
namespace QueryCriteria

open Calendar

structure Moment where
  date : Date
  hour : Nat
  minute : Nat
  second : Nat
  microsecond : Nat
  /-- Minutes ahead of universal time; none for a time without a zone. -/
  offset : Option Int
  deriving DecidableEq

namespace Moment

def microsecondsPerDay : Nat := 86400000000

def timeOfDay (m : Moment) : Nat :=
  ((m.hour * 60 + m.minute) * 60 + m.second) * 1000000 + m.microsecond

/-- The microseconds since the start of year 1 on the local clock. -/
def localCount (m : Moment) : Nat := dayOfDate m.date * microsecondsPerDay + m.timeOfDay

/-- The microseconds since the start of year 1 in universal time. -/
def instant (m : Moment) : Int := m.localCount - m.offset.getD 0 * 60000000

/-- The first instant after the calendar. -/
def endOfTime : Int := daysBeforeYear (maxYear + 1) * microsecondsPerDay

/-- The date and time in universal time at an instant. -/
def ofInstant? (n : Int) : Option Moment :=
  if 0 ≤ n ∧ n < endOfTime then
    let time := n.toNat % microsecondsPerDay
    some
      { date := dateOfDay (n.toNat / microsecondsPerDay)
        hour := time / 3600000000
        minute := time / 60000000 % 60
        second := time / 1000000 % 60
        microsecond := time % 1000000
        offset := some 0 }
  else none

def utc? (m : Moment) : Option Moment := ofInstant? m.instant

/-- The last `width` decimal digits of a number. -/
def padded : Nat → Nat → List Char
  | 0, _ => []
  | width + 1, n => padded width (n / 10) ++ [Nat.digitChar (n % 10)]

def offsetText (minutes : Int) : List Char :=
  (if minutes < 0 then '-' else '+') ::
    (padded 2 (minutes.natAbs / 60) ++ ':' :: padded 2 (minutes.natAbs % 60))

/-- Year, month and day, the time after a `T`, a fraction unless it is zero, and the
zone if there is one. -/
def text (m : Moment) : List Char :=
  padded 4 m.date.year ++ '-' :: padded 2 m.date.month ++ '-' :: padded 2 m.date.day ++
    'T' :: padded 2 m.hour ++ ':' :: padded 2 m.minute ++ ':' :: padded 2 m.second ++
    (if m.microsecond = 0 then [] else '.' :: padded 6 m.microsecond) ++
    (m.offset.map offsetText).getD []

end Moment
end QueryCriteria
