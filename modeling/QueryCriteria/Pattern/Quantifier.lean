import QueryCriteria.Number.Numeral
import QueryCriteria.Pattern.Symbol

/-!
Quantifiers in a regular expression: `?`, `*`, `+` and the counts in braces.  A brace
that does not start well-formed counts stands for itself.
-/
namespace QueryCriteria
namespace Pattern

structure Quantifier where
  low : Nat
  /-- The greatest count, if there is one. -/
  high : Option Nat

/-- The least count that is too large for a quantifier. -/
def countLimit : Nat := 4294967295

/-- What a symbol that may be a quantifier turned out to be. -/
inductive Counted where
  | quantifier (q : Quantifier) (rest : List Symbol)
  | literal
  | refused

/-- A count in braces; no digits at all leave it open. -/
def readCount? : List Char → Option (Option Nat)
  | [] => some none
  | ds =>
    let n := ds.foldl (fun n d => 10 * n + (d.toNat - 48)) 0
    if ds.length ≤ Numeral.maxDigits ∧ n < countLimit then some (some n) else none

def countsOf (low high : List Char) (rest : List Symbol) : Counted :=
  match readCount? low, readCount? high with
  | some low, some high =>
    if (high.map fun h => decide (h < low.getD 0)).getD false then .refused
    else .quantifier { low := low.getD 0, high := high } rest
  | _, _ => .refused

/-- The counts after an opening brace. -/
def readCounts (symbols : List Symbol) : Counted :=
  match takePlain Char.isDigit symbols.length symbols with
  | (low, comma :: rest) =>
    if comma.isPlain ',' then
      match takePlain Char.isDigit rest.length rest with
      | (high, close :: final) =>
        if close.isPlain '}' then countsOf low high final else .literal
      | _ => .literal
    else if comma.isPlain '}' ∧ low ≠ [] then countsOf low low rest
    else .literal
  | _ => .literal

/-- What an unescaped character means for the item before it, given the symbols after it. -/
def readQuantifier (c : Char) (rest : List Symbol) : Counted :=
  if c = '?' then .quantifier { low := 0, high := some 1 } rest
  else if c = '*' then .quantifier { low := 0, high := none } rest
  else if c = '+' then .quantifier { low := 1, high := none } rest
  else if c = '{' then readCounts rest
  else .literal

/-- A mark after a quantifier makes it reluctant or possessive. -/
def afterMark : List Symbol → List Symbol
  | s :: rest => if s.isPlain '?' || s.isPlain '+' then rest else s :: rest
  | [] => []

end Pattern
end QueryCriteria
