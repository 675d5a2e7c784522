import QueryCriteria.Pattern.Symbol
import QueryCriteria.Text.CharacterName

/-!
Escapes in a regular expression.  A letter after a backslash has to have a meaning, a
digit starts an octal number or refers to a group, and every other character stands for
itself.  The functions take the escaped character and the symbols after it, because some
escapes go on with digits or a name.
-/
namespace QueryCriteria
namespace Pattern

def isOctal (c : Char) : Bool := '0' ≤ c && c ≤ '7'

def isHex (c : Char) : Bool :=
  c.isDigit || ('a' ≤ c && c ≤ 'f') || ('A' ≤ c && c ≤ 'F')

def hexValue (c : Char) : Nat :=
  if c.isDigit then c.toNat - 48 else c.toLower.toNat - 87

/-- The number that digits write to a base of at most sixteen. -/
def ofBase (base : Nat) (cs : List Char) : Nat := cs.foldl (fun n c => base * n + hexValue c) 0

/-- Exactly `count` hexadecimal digits. -/
def readHex? (count : Nat) (rest : List Symbol) : Option (Nat × List Symbol) :=
  match takePlain isHex count rest with
  | (ds, after) => if ds.length = count then some (ofBase 16 ds, after) else none

/-- A character by its name in braces. -/
def readNamed? : List Symbol → Option (Nat × List Symbol)
  | [] => none
  | s :: rest =>
    if s.isPlain '\x7b' then
      (untilPlain? '\x7d' rest).bind fun (name, after) =>
        (Text.CharacterName.code? name).map (·, after)
    else none

/-- A code point written with a fixed number of hexadecimal digits or by its name. -/
def readCode? (c : Char) (rest : List Symbol) : Option (Nat × List Symbol) :=
  if c = 'x' then readHex? 2 rest
  else if c = 'u' then readHex? 4 rest
  else if c = 'U' then (readHex? 8 rest).filter fun (n, _) => n ≤ 0x10FFFF
  else if c = 'N' then readNamed? rest
  else none

/-- What one item between brackets stands for. -/
inductive ClassItem where
  | point (code : Nat)
  | category

/-- The control characters that have a letter. -/
def control? : Char → Option Nat
  | 'a' => some 7
  | 'f' => some 12
  | 'n' => some 10
  | 'r' => some 13
  | 't' => some 9
  | 'v' => some 11
  | _ => none

def isCategory (c : Char) : Bool := ['d', 'D', 's', 'S', 'w', 'W'].contains c

def isAnchor (c : Char) : Bool := ['A', 'b', 'B', 'Z'].contains c

/-- An octal number may not exceed the value of three digits that fits a byte. -/
def maxOctal : Nat := 0o377

/-- An escape between brackets, where a digit can only start an octal number. -/
def classEscape? (c : Char) (rest : List Symbol) : Option (ClassItem × List Symbol) :=
  match control? c with
  | some n => some (.point n, rest)
  | none =>
    if c = 'b' then some (.point 8, rest)
    else if isCategory c then some (.category, rest)
    else if isOctal c then
      match takePlain isOctal 2 rest with
      | (ds, after) =>
        if ofBase 8 (c :: ds) ≤ maxOctal then some (.point (ofBase 8 (c :: ds)), after) else none
    else if c.isDigit then none
    else if c.isAlpha then (readCode? c rest).map fun (n, after) => (.point n, after)
    else some (.point c.toNat, rest)

/-- What an escape outside brackets stands for. -/
inductive Escape where
  /-- A place, which has no width and cannot be repeated. -/
  | place
  /-- One character, or one of a class of characters. -/
  | character
  | reference (group : Nat)

/-- Digits that do not start with zero: three octal ones are a character, otherwise the
first one or two refer to a group. -/
def digitEscape? (c : Char) (rest : List Symbol) : Option (Escape × List Symbol) :=
  match takePlain Char.isDigit 1 rest with
  | ([d], after) =>
    match isOctal c && isOctal d, takePlain isOctal 1 after with
    | true, ([e], final) =>
      if ofBase 8 [c, d, e] ≤ maxOctal then some (.character, final) else none
    | _, _ => some (.reference (ofBase 10 [c, d]), after)
  | _ => some (.reference (ofBase 10 [c]), rest)

def escape? (c : Char) (rest : List Symbol) : Option (Escape × List Symbol) :=
  if isAnchor c then some (.place, rest)
  else if isCategory c || (control? c).isSome then some (.character, rest)
  else if c = '0' then some (.character, (takePlain isOctal 2 rest).2)
  else if c.isDigit then digitEscape? c rest
  else if c.isAlpha then (readCode? c rest).map fun (_, after) => (.character, after)
  else some (.character, rest)

end Pattern
end QueryCriteria
