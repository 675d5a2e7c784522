import QueryCriteria.Number.Binary64

/-!
The shortest decimal text of a floating-point number.  Of the powers of ten whose grid
has a point that rounds to the number, `shortest?` takes the largest, and of its points
the one nearest to the number; `text` writes that point.
-/
namespace QueryCriteria
namespace Binary64

/-- Where a format stops writing every place and how it writes a power of ten. -/
structure FloatFormat where
  /-- A number is written with a power of ten when its point stands this many places
  before its first digit, or more. -/
  smallest : Int
  /-- And when it has more places than this before the point. -/
  largest : Int
  /-- The least number of digits in the power of ten. -/
  powerDigits : Nat

/-- Plain notation from a ten-thousandth up to sixteen places, a power of ten outside. -/
def plain : FloatFormat := { smallest := -4, largest := 16, powerDigits := 2 }

/-- The point of the grid `G` nearest to `4 * m * U` among those from `low * U` to
`high * U`, ends included iff `m` is even, as these are the reals that round to `m`. -/
def nearestOnGrid? (m low high G U : Nat) : Option Nat :=
  let inside := fun d : Nat =>
    if m % 2 = 0 then decide (low * U ≤ d * G ∧ d * G ≤ high * U)
    else decide (low * U < d * G ∧ d * G < high * U)
  let below := 4 * m * U / G
  let above := below + 1
  let gapBelow := 4 * m * U - below * G
  let gapAbove := above * G - 4 * m * U
  if inside below && inside above then
    if gapBelow < gapAbove then some below
    else if gapAbove < gapBelow then some above
    else some (below + below % 2)
  else if inside below then some below
  else if inside above then some above
  else none

/-- Integers `d` and `e` such that `d * 10 ^ e` reads back as the positive finite number,
with as few digits as possible. -/
def shortest? (x : Binary64) : Option (Nat × Int) :=
  let m := x.significand
  let unit := x.exponent - 2
  let low := if m = binade ∧ -1074 < x.exponent then 4 * m - 1 else 4 * m - 2
  (List.range 640).findSome? fun (i : Nat) =>
    let e : Int := 310 - (i : Int)
    let G := tenTo e.toNat * twoTo (-unit).toNat
    let U := twoTo unit.toNat * tenTo (-e).toNat
    (nearestOnGrid? m low (4 * m + 2) G U).map fun d => (d, e)

def powerText (format : FloatFormat) (power : Int) : List Char :=
  let digits := naturalText power.natAbs
  (if power < 0 then '-' else '+') ::
    (List.replicate (format.powerDigits - digits.length) '0' ++ digits)

/-- The digits of a number whose point stands `point` places after the first digit. -/
def placeText (format : FloatFormat) (digits : List Char) (point : Int) : List Char :=
  if point ≤ format.smallest ∨ format.largest < point then
    match digits with
    | [] => []
    | [d] => d :: 'e' :: powerText format (point - 1)
    | d :: ds => d :: '.' :: ds ++ 'e' :: powerText format (point - 1)
  else if point ≤ 0 then '0' :: '.' :: (List.replicate (-point).toNat '0' ++ digits)
  else
    let whole := digits.take point.toNat
    let rest := digits.drop point.toNat
    whole ++ List.replicate (point.toNat - digits.length) '0' ++
      '.' :: (if rest = [] then ['0'] else rest)

def text (x : Binary64) : List Char :=
  if infinity < x.magnitude then ['n', 'a', 'n']
  else
    let unsigned :=
      if x.magnitude = infinity then ['i', 'n', 'f']
      else if x.magnitude = 0 then ['0', '.', '0']
      else
        match x.shortest? with
        | none => []
        | some (d, e) =>
          let digits := naturalText d
          placeText plain digits (digits.length + e)
    if x.negative then '-' :: unsigned else unsigned

end Binary64
end QueryCriteria
