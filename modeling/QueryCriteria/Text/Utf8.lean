/-!
The octets of UTF-8.  `octets` encodes a character.  Decoding goes octet by octet, and
every longest part that can start a character but does not finish one becomes a single
replacement character.
-/
namespace QueryCriteria
namespace Text

def octets (c : Char) : List Nat :=
  let n := c.toNat
  if n < 0x80 then [n]
  else if n < 0x800 then [0xC0 + n / 0x40, 0x80 + n % 0x40]
  else if n < 0x10000 then [0xE0 + n / 0x1000, 0x80 + n / 0x40 % 0x40, 0x80 + n % 0x40]
  else [0xF0 + n / 0x40000, 0x80 + n / 0x1000 % 0x40, 0x80 + n / 0x40 % 0x40, 0x80 + n % 0x40]

def replacement : Char := Char.ofNat 0xFFFD

/-- A character that has been started: the octets still to come, the least and the
greatest next one, and the bits read so far. -/
structure Started where
  missing : Nat
  low : Nat
  high : Nat
  code : Nat
  deriving DecidableEq, Repr

/-- The first octet of a character: the characters that it finishes and the one that it
starts. -/
def firstOctet (b : Nat) : List Char × Option Started :=
  if b < 0x80 then ([Char.ofNat b], none)
  else if b < 0xC2 then ([replacement], none)
  else if b < 0xE0 then ([], some { missing := 1, low := 0x80, high := 0xBF, code := b - 0xC0 })
  else if b < 0xF0 then
    let low := if b = 0xE0 then 0xA0 else 0x80
    let high := if b = 0xED then 0x9F else 0xBF
    ([], some { missing := 2, low := low, high := high, code := b - 0xE0 })
  else if b < 0xF5 then
    let low := if b = 0xF0 then 0x90 else 0x80
    let high := if b = 0xF4 then 0x8F else 0xBF
    ([], some { missing := 3, low := low, high := high, code := b - 0xF0 })
  else ([replacement], none)

/-- What is left of a character that does not go on. -/
def flush (pending : Option Started) : List Char :=
  match pending with
  | none => []
  | some _ => [replacement]

def nextOctet (pending : Option Started) (b : Nat) : List Char × Option Started :=
  match pending with
  | none => firstOctet b
  | some s =>
    if s.low ≤ b ∧ b ≤ s.high then
      let code := s.code * 0x40 + (b - 0x80)
      if s.missing = 1 then ([Char.ofNat code], none)
      else ([], some { missing := s.missing - 1, low := 0x80, high := 0xBF, code := code })
    else (replacement :: (firstOctet b).1, (firstOctet b).2)

end Text
end QueryCriteria
