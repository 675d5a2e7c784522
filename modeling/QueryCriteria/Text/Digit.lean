/-!
Decimal digits of all scripts.  Unicode gives the ten digits of a script ten
consecutive code points, so a table of the zeros (general category Nd, Unicode 14)
says which characters are digits and what each is worth.
-/
namespace QueryCriteria
namespace Text

/-- The code points of the digits zero, in increasing order. -/
def zeros : List Nat := [
    48, 1632, 1776, 1984, 2406, 2534, 2662, 2790, 2918, 3046, 3174, 3302, 3430, 3558, 3664, 3792,
    3872, 4160, 4240, 6112, 6160, 6470, 6608, 6784, 6800, 6992, 7088, 7232, 7248, 42528, 43216,
    43264, 43472, 43504, 43600, 44016, 65296, 66720, 68912, 69734, 69872, 69942, 70096, 70384,
    70736, 70864, 71248, 71360, 71472, 71904, 72016, 72784, 73040, 73120, 92768, 92864, 93008,
    120782, 120792, 120802, 120812, 120822, 123200, 123632, 125264, 130032]

/-- The value of a decimal digit of any script. -/
def digit? (c : Char) : Option Nat :=
  (zeros.find? fun z => z ≤ c.toNat && c.toNat < z + 10).map (c.toNat - ·)

/-- The digits that a text starts with, as values, and the rest of the text. -/
def spanDigits : List Char → List Nat × List Char
  | [] => ([], [])
  | c :: cs =>
    match digit? c with
    | some d => (d :: (spanDigits cs).1, (spanDigits cs).2)
    | none => ([], c :: cs)

/-- The number that a run of digits writes, most significant digit first. -/
def ofDigits (ds : List Nat) : Nat := ds.foldl (fun n d => 10 * n + d) 0

/-- An underscore between two digits only separates them; anywhere else it is an error. -/
def dropSeparators : Bool → List Char → Option (List Char)
  | _, [] => some []
  | afterDigit, '_' :: cs =>
    match afterDigit, cs with
    | true, d :: rest =>
      if (digit? d).isSome then (dropSeparators true rest).map (d :: ·) else none
    | _, _ => none
  | _, c :: cs => (dropSeparators (digit? c).isSome cs).map (c :: ·)

end Text
end QueryCriteria
