/-!
The proleptic Gregorian calendar from year 1 to year 9999.  Days are counted from
0 for 1 January of year 1, and `dateOfDay` undoes `dayOfDate`.
-/
namespace QueryCriteria
namespace Calendar

def isLeap (year : Nat) : Bool := year % 4 = 0 ∧ (year % 100 ≠ 0 ∨ year % 400 = 0)

def monthLengths (year : Nat) : List Nat :=
  [31, if isLeap year then 29 else 28, 31, 30, 31, 30, 31, 31, 30, 31, 30, 31]

def maxYear : Nat := 9999

structure Date where
  year : Nat
  month : Nat
  day : Nat
  deriving DecidableEq, Repr

def monthLength (year month : Nat) : Nat := (monthLengths year).getD (month - 1) 0

/-- Whether the calendar has the date. -/
def Date.Valid (d : Date) : Prop :=
  1 ≤ d.year ∧ d.year ≤ maxYear ∧ 1 ≤ d.month ∧ d.month ≤ 12 ∧ 1 ≤ d.day ∧
    d.day ≤ monthLength d.year d.month

instance (d : Date) : Decidable d.Valid := by unfold Date.Valid; infer_instance

/-- The days of the years before `year`. -/
def daysBeforeYear (year : Nat) : Nat :=
  let n := year - 1
  365 * n + n / 4 - n / 100 + n / 400

def daysBeforeMonth (year month : Nat) : Nat :=
  ((monthLengths year).take (month - 1)).foldr (· + ·) 0

def dayOfDate (d : Date) : Nat :=
  daysBeforeYear d.year + daysBeforeMonth d.year d.month + (d.day - 1)

/-- The year that a day falls in and the number of days of that year before it.  Of 400
years, each hundred but the last lacks one leap day, and so does each fourth year. -/
def yearOfDay (n : Nat) : Nat × Nat :=
  let century := min (n % 146097 / 36524) 3
  let inCentury := n % 146097 - century * 36524
  let inFour := inCentury % 1461
  let year := min (inFour / 365) 3
  (400 * (n / 146097) + 100 * century + 4 * (inCentury / 1461) + year + 1, inFour - 365 * year)

/-- The month, counted from `month`, and the day of it, counted from 1. -/
def monthOfDay (month : Nat) : List Nat → Nat → Nat × Nat
  | [], n => (month, n + 1)
  | length :: lengths, n =>
    if n < length then (month, n + 1) else monthOfDay (month + 1) lengths (n - length)

def dateOfDay (n : Nat) : Date :=
  let year := (yearOfDay n).1
  let monthDay := monthOfDay 1 (monthLengths year) (yearOfDay n).2
  { year := year, month := monthDay.1, day := monthDay.2 }

end Calendar
end QueryCriteria
