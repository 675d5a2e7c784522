import QueryCriteria.Config.Problem
import QueryCriteria.Config.Setting
import QueryCriteria.Text.Blank
import QueryCriteria.Text.Segment

/-!
Integers in settings.  They may be written as texts, between spaces, with zeros in front
and zeros after a point, and with underscores between digits; or as floating-point numbers
that have no fraction.  `clean?` brings a text to the form that `ofPlain` reads: an
optional minus and digits.
-/
namespace QueryCriteria
namespace Config

/-- The text after the zeros at its start, of which `last` is the one before it.  Underscores
among the zeros go with them, and a zero stays where nothing else would be before the point
or at the end.  A minus may follow the zeros. -/
def afterZeros? (last : Char) : List Char → Option (List Char)
  | [] => some [last]
  | c :: cs =>
    if c = '0' ∨ c = '_' then afterZeros? c cs
    else if c.isDigit ∨ c = '-' then some (c :: cs)
    else if c = '.' then some (last :: c :: cs)
    else none

def dropZeros? : List Char → Option (List Char)
  | [] => none
  | c :: cs =>
    if c = '0' then afterZeros? c cs
    else if c.isDigit ∨ c = '-' then some (c :: cs)
    else none

/-- The text without a point that has nothing but zeros after it, and at least one. -/
def dropPoint (cs : List Char) : List Char :=
  match Text.cutAt '.' cs with
  | (before, some (z :: zeros)) => if (z :: zeros).all (· == '0') then before else cs
  | _ => cs

/-- The text without underscores, if all of them stand alone and none at an end. -/
def dropUnderscores (cs : List Char) : List Char :=
  if [] ∈ Text.splitOn '_' cs then cs else (Text.splitOn '_' cs).flatten

/-- One plus is dropped, but not before a minus. -/
def dropPlus? : List Char → Option (List Char)
  | '+' :: '-' :: _ => none
  | '+' :: cs => some cs
  | cs => some cs

/-- A minus stays in front of what is left after it. -/
def dropSignedZeros? : List Char → Option (List Char)
  | '-' :: cs => (dropZeros? cs).map ('-' :: ·)
  | cs => dropZeros? cs

def clean? (text : List Char) : Option (List Char) :=
  ((dropPlus? (Text.strip Text.isSpace text)).bind dropSignedZeros?).map fun cs =>
    dropUnderscores (dropPoint cs)

/-- The greatest number of characters that an integer may have, its minus included. -/
def maxLength : Nat := 4300

/-- More than one digit must not start with zero.  What goes on for too long is refused for
that, whatever comes after it. -/
def ofPlain (cs : List Char) : Except ProblemKind Int :=
  let negative := cs.head? = some '-'
  let body := if negative then cs.drop 1 else cs
  let digits := body.takeWhile Char.isDigit
  if digits.head? = some '0' then
    if body = ['0'] then .ok 0 else .error .unreadableInteger
  else if maxLength < digits.length + (if negative then 1 else 0) then .error .oversized
  else if digits = [] ∨ digits ≠ body then .error .unreadableInteger
  else .ok (Numeral.withSign negative (Text.ofDigits (digits.filterMap Text.digit?)))

def integerOfText (text : List Char) : Except ProblemKind Int :=
  match clean? text with
  | none => .error .unreadableInteger
  | some cs => ofPlain cs

/-- Floating-point numbers stand for integers only between the 63rd powers of two. -/
def integerOfFloat (x : Binary64) : Except ProblemKind Int :=
  match x.toInt? with
  | none => .error .fractional
  | some n => if n.natAbs < twoTo 63 then .ok n else .error .oversized

end Config
end QueryCriteria
