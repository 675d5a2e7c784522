import QueryCriteria.Number.Numeral
import QueryCriteria.Number.Power

/-!
The binary floating-point numbers of 64 bits.  A number is a sign and a magnitude, and
the magnitudes count the non-negative numbers in increasing order: zero is 0, the next
larger number is one more, and infinity comes after the last finite one.  Rounding an
exact ratio to the nearest number, ties to the even one, is then a rounding of integers
whose carry moves on to the next power of two by itself.
-/
namespace QueryCriteria

structure Binary64 where
  negative : Bool
  magnitude : Nat
  deriving DecidableEq

namespace Binary64

/-- The number of magnitudes from one power of two to the next. -/
def binade : Nat := twoTo 52

/-- The magnitude of infinity; the larger ones are not numbers. -/
def infinity : Nat := 2047 * binade

def notANumber : Binary64 := { negative := false, magnitude := infinity + binade / 2 }

def isFinite (x : Binary64) : Bool := x.magnitude < infinity

/-- The interchange format: the sign, eleven bits of exponent and 52 of fraction. -/
def bits (x : Binary64) : Nat := (if x.negative then 2048 * binade else 0) + x.magnitude

/-- A finite number without its sign is `significand * 2 ^ exponent`. -/
def significand (x : Binary64) : Nat :=
  if x.magnitude < binade then x.magnitude else x.magnitude % binade + binade

def exponent (x : Binary64) : Int :=
  if x.magnitude < binade then -1074 else ((x.magnitude / binade : Nat) : Int) - 1075

/-- The integer nearest to a ratio, ties to the even one. -/
def roundHalfEven (num den : Nat) : Nat :=
  let quotient := num / den
  let rest := num % den
  if 2 * rest < den then quotient
  else if den < 2 * rest then quotient + 1
  else quotient + quotient % 2

/-- The largest `k` with `2 ^ k ≤ num / den`. -/
def floorLog (num den : Nat) : Int :=
  if den * twoTo num.log2 ≤ num * twoTo den.log2 then (num.log2 : Int) - den.log2
  else (num.log2 : Int) - den.log2 - 1

/-- The magnitude nearest to `num / den`, infinity if the ratio is too large. -/
def roundRatio (num den : Nat) : Nat :=
  if num = 0 then 0
  else
    let unit : Int := max (floorLog num den - 52) (-1074)
    let rounded :=
      if 0 ≤ unit then roundHalfEven num (den * twoTo unit.toNat)
      else roundHalfEven (num * twoTo (-unit).toNat) den
    min ((unit + 1074).toNat * binade + rounded) infinity

/-- The number nearest to a numeral.  Far outside the range of the finite numbers the
answer is known from the position of the first digit that is not zero. -/
def ofNumeral (n : Numeral) : Binary64 :=
  let digits := (n.whole ++ n.fraction.getD []).dropWhile (· == 0)
  let top : Int := digits.length + n.scale
  let magnitude :=
    if digits = [] ∨ top < -330 then 0
    else if 330 < top then infinity
    else if 0 ≤ n.scale then roundRatio (Text.ofDigits digits * tenTo n.scale.toNat) 1
    else roundRatio (Text.ofDigits digits) (tenTo (-n.scale).toNat)
  { negative := n.negative, magnitude := magnitude }

/-- The words that stand for infinity and for no number, in any mixture of cases. -/
def readWord? (text : List Char) : Option Nat :=
  let word := text.map Char.toLower
  if word = ['i', 'n', 'f'] ∨ word = ['i', 'n', 'f', 'i', 'n', 'i', 't', 'y'] then some infinity
  else if word = ['n', 'a', 'n'] then some notANumber.magnitude
  else none

/-- A number text: spaces around a numeral, with single underscores between its digits,
or around one of the words. -/
def read? (text : List Char) : Option Binary64 :=
  let signed := Numeral.spanSign (Text.strip Text.isSpace text)
  match readWord? signed.2 with
  | some magnitude => some { negative := signed.1, magnitude := magnitude }
  | none => (Numeral.readLoose? text).map ofNumeral

/-- A finite number without its fraction. -/
def truncate? (x : Binary64) : Option Int :=
  if x.isFinite then
    some <| Numeral.withSign x.negative <|
      if 0 ≤ x.exponent then x.significand * twoTo x.exponent.toNat
      else x.significand / twoTo (-x.exponent).toNat
  else none

/-- The least integer that is not below a finite number. -/
def ceil? (x : Binary64) : Option Int :=
  if x.isFinite then
    let value : Int := Numeral.withSign x.negative x.significand
    some <|
      if 0 ≤ x.exponent then value * twoTo x.exponent.toNat
      else -(-value / twoTo (-x.exponent).toNat)
  else none

/-- The integer that a number is, if it is one. -/
def toInt? (x : Binary64) : Option Int := if x.truncate? = x.ceil? then x.truncate? else none

/-- The number nearest to the quotient of two integers. -/
def ofQuotient (a b : Int) : Binary64 :=
  { negative := decide (a < 0) != decide (b < 0), magnitude := roundRatio a.natAbs b.natAbs }

end Binary64
end QueryCriteria
