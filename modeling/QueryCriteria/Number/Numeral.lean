import QueryCriteria.Text.Blank
import QueryCriteria.Text.Digit

/-!
Written numbers: an optional sign, digits with an optional point among or beside them,
and an optional power of ten.  `Numeral.read?` reads a whole text, and the parts keep
the digits as they are written, leading zeros included, because an integer of more than
`maxDigits` digits is refused.
-/
namespace QueryCriteria

structure Numeral where
  negative : Bool
  whole : List Nat
  /-- The digits after the point, if a point is written. -/
  fraction : Option (List Nat)
  /-- The sign and the digits of the power of ten, if one is written. -/
  power : Option (Bool × List Nat)
  deriving DecidableEq

namespace Numeral

open Text

/-- The most digits that the text of an integer may have. -/
def maxDigits : Nat := 4300

/-- Whether a text starts with a minus, and the text after its sign. -/
def spanSign : List Char → Bool × List Char
  | '-' :: cs => (true, cs)
  | '+' :: cs => (false, cs)
  | cs => (false, cs)

def spanFraction : List Char → Option (List Nat) × List Char
  | '.' :: cs => (some (spanDigits cs).1, (spanDigits cs).2)
  | cs => (none, cs)

/-- The power of ten that makes up a whole text; no text at all is no power. -/
def readPower? : List Char → Option (Option (Bool × List Nat))
  | [] => some none
  | c :: cs =>
    if c = 'e' ∨ c = 'E' then
      match spanDigits (spanSign cs).2 with
      | (d :: ds, []) => some (some ((spanSign cs).1, d :: ds))
      | _ => none
    else none

/-- At least one digit has to stand before or after the point. -/
def read? (text : List Char) : Option Numeral :=
  let signed := spanSign text
  let whole := spanDigits signed.2
  let fraction := spanFraction whole.2
  if whole.1 = [] ∧ fraction.1.getD [] = [] then none
  else
    (readPower? fraction.2).map fun power =>
      { negative := signed.1, whole := whole.1, fraction := fraction.1, power := power }

def isInteger (n : Numeral) : Bool := n.fraction.isNone && n.power.isNone

def withSign (negative : Bool) (n : Nat) : Int := if negative then -(n : Int) else n

/-- The value of a numeral without point and power, unless it has too many digits. -/
def toInt? (n : Numeral) : Option Int :=
  if n.isInteger ∧ n.whole.length ≤ maxDigits then some (withSign n.negative (ofDigits n.whole))
  else none

/-- The exponent of ten by which the written digits, read without the point, are scaled. -/
def scale (n : Numeral) : Int :=
  let written : Int :=
    match n.power with
    | none => 0
    | some (negative, ds) => withSign negative (ofDigits ds)
  written - (n.fraction.getD []).length

end Numeral

/-- A numeral with spaces around it and single underscores between its digits. -/
def Numeral.readLoose? (text : List Char) : Option Numeral :=
  (Text.dropSeparators false (Text.strip Text.isSpace text)).bind Numeral.read?

/-- An integer text: spaces around it, a sign, digits, and single underscores between
digits. -/
def readInteger? (text : List Char) : Option Int := (Numeral.readLoose? text).bind Numeral.toInt?

/-- The decimal digits of a natural number. -/
def naturalText (n : Nat) : List Char := Nat.toDigits 10 n

def integerText : Int → List Char
  | .ofNat n => naturalText n
  | .negSucc n => '-' :: naturalText (n + 1)

/-- An integer with too many digits can be written as little as it can be read. -/
def isWritable (n : Int) : Bool := (naturalText n.natAbs).length ≤ Numeral.maxDigits

end QueryCriteria
