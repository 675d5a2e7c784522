import QueryCriteria.Text.Utf8

/-!
Names and values in form encoding.  Letters, digits and four marks stand for themselves,
a plus sign for the space, and every other octet is written with a percent sign and two
hexadecimal digits.  A percent sign without two digits after it stands for itself.
-/
namespace QueryCriteria
namespace Form

open Text

def isUnreserved (c : Char) : Bool :=
  c.isAlphanum || c == '_' || c == '.' || c == '-' || c == '~'

def upperHex (n : Nat) : Char := (Nat.digitChar n).toUpper

def percent (b : Nat) : List Char := ['%', upperHex (b / 16), upperHex (b % 16)]

def encodeChar (c : Char) : List Char :=
  if c = ' ' then ['+'] else if isUnreserved c then [c] else (octets c).flatMap percent

def encode (cs : List Char) : List Char := cs.flatMap encodeChar

/-- A part of encoded text: an octet, or a character that does not need to be encoded. -/
inductive Piece where
  | octet (b : Nat)
  | char (c : Char)
  deriving DecidableEq

def hexDigit? (c : Char) : Option Nat :=
  if '0' ≤ c ∧ c ≤ '9' then some (c.toNat - 48)
  else if 'a' ≤ c ∧ c ≤ 'f' then some (c.toNat - 87)
  else if 'A' ≤ c ∧ c ≤ 'F' then some (c.toNat - 55)
  else none

/-- A character that is not encoded: ASCII ones count as octets. -/
def plainPiece (c : Char) : Piece :=
  if c = '+' then .octet 0x20 else if c.toNat < 0x80 then .octet c.toNat else .char c

def pieces : List Char → List Piece
  | '%' :: a :: b :: cs =>
    match hexDigit? a, hexDigit? b with
    | some x, some y => .octet (16 * x + y) :: pieces cs
    | _, _ => .octet 0x25 :: pieces (a :: b :: cs)
  | c :: cs => plainPiece c :: pieces cs
  | [] => []

/-- The text that the pieces write after a character that may have been started.  Only
octets that stand side by side make a character. -/
def assemble : Option Started → List Piece → List Char
  | pending, [] => flush pending
  | pending, .char c :: rest => flush pending ++ c :: assemble none rest
  | pending, .octet b :: rest =>
    (nextOctet pending b).1 ++ assemble (nextOctet pending b).2 rest

def decode (cs : List Char) : List Char := assemble none (pieces cs)

end Form
end QueryCriteria
