import QueryCriteria.Form.Component

/-!
Reading back the octets of a character.  A character takes one to four octets, and the
reader, started between characters, gives exactly that character for them.
-/
namespace QueryCriteria
namespace Form

open Text

theorem assemble_octet (pending : Option Started) (b : Nat) (rest : List Piece) :
    assemble pending (.octet b :: rest) =
      (nextOctet pending b).1 ++ assemble (nextOctet pending b).2 rest := rfl

/-- A character is not among the surrogates. -/
theorem toNat_bounds (c : Char) : c.toNat < 0xD800 ∨ 0xDFFF < c.toNat ∧ c.toNat < 0x110000 :=
  c.valid

theorem firstOctet_two {b : Nat} (h : 0xC2 ≤ b) (h' : b < 0xE0) :
    firstOctet b = ([], some { missing := 1, low := 0x80, high := 0xBF, code := b - 0xC0 }) := by
  rw [firstOctet, if_neg (by omega), if_neg (by omega), if_pos h']

theorem firstOctet_three {b : Nat} (h : 0xE0 ≤ b) (h' : b < 0xF0) :
    firstOctet b =
      ([], some { missing := 2, low := if b = 0xE0 then 0xA0 else 0x80,
                  high := if b = 0xED then 0x9F else 0xBF, code := b - 0xE0 }) := by
  rw [firstOctet, if_neg (by omega), if_neg (by omega), if_neg (by omega), if_pos h']

theorem firstOctet_four {b : Nat} (h : 0xF0 ≤ b) (h' : b < 0xF5) :
    firstOctet b =
      ([], some { missing := 3, low := if b = 0xF0 then 0x90 else 0x80,
                  high := if b = 0xF4 then 0x8F else 0xBF, code := b - 0xF0 }) := by
  rw [firstOctet, if_neg (by omega), if_neg (by omega), if_neg (by omega), if_neg (by omega),
    if_pos h']

/-- An octet in the range that is expected goes on with the character. -/
theorem nextOctet_more {s : Started} {b : Nat} (hl : s.low ≤ b) (hh : b ≤ s.high)
    (hm : s.missing ≠ 1) :
    nextOctet (some s) b =
      ([], some { missing := s.missing - 1, low := 0x80, high := 0xBF,
                  code := s.code * 0x40 + (b - 0x80) }) := by
  simp only [nextOctet, if_pos (And.intro hl hh), if_neg hm]

theorem nextOctet_last {s : Started} {b : Nat} (hl : s.low ≤ b) (hh : b ≤ s.high)
    (hm : s.missing = 1) :
    nextOctet (some s) b = ([Char.ofNat (s.code * 0x40 + (b - 0x80))], none) := by
  simp only [nextOctet, if_pos (And.intro hl hh), if_pos hm]

theorem ofNat_eq {c : Char} {n : Nat} (h : n = c.toNat) : Char.ofNat n = c := by
  rw [h, Char.ofNat_toNat]

/-- The octets of a character are read as that character, whatever comes after them. -/
theorem assemble_octets (c : Char) (rest : List Piece) :
    assemble none ((octets c).map Piece.octet ++ rest) = c :: assemble none rest := by
  have hc := toNat_bounds c
  simp only [octets]
  split
  · next h1 =>
    simp only [List.map_cons, List.map_nil, List.cons_append, List.nil_append]
    rw [assemble_octet]
    simp only [nextOctet, firstOctet, if_pos h1, Char.ofNat_toNat, List.cons_append,
      List.nil_append]
  split
  · next h1 h2 =>
    simp only [List.map_cons, List.map_nil, List.cons_append, List.nil_append]
    rw [assemble_octet, nextOctet, firstOctet_two (by omega) (by omega), assemble_octet,
      nextOctet_last (by show 0x80 ≤ _; omega) (by show _ ≤ 0xBF; omega) rfl,
      ofNat_eq (c := c) (by show (_ - 0xC0) * 0x40 + _ = _; omega)]
    rfl
  split
  · next h1 h2 h3 =>
    simp only [List.map_cons, List.map_nil, List.cons_append, List.nil_append]
    rw [assemble_octet, nextOctet, firstOctet_three (by omega) (by omega), assemble_octet,
      nextOctet_more (by show (if _ then _ else _) ≤ _; split <;> omega)
        (by show _ ≤ (if _ then _ else _); split <;> omega) (by show 2 ≠ 1; omega),
      assemble_octet,
      nextOctet_last (by show 0x80 ≤ _; omega) (by show _ ≤ 0xBF; omega) rfl,
      ofNat_eq (c := c)
        (by show ((_ - 0xE0) * 0x40 + _) * 0x40 + _ = _; omega)]
    rfl
  · next h1 h2 h3 =>
    simp only [List.map_cons, List.map_nil, List.cons_append, List.nil_append]
    rw [assemble_octet, nextOctet, firstOctet_four (by omega) (by omega), assemble_octet,
      nextOctet_more (by show (if _ then _ else _) ≤ _; split <;> omega)
        (by show _ ≤ (if _ then _ else _); split <;> omega) (by show 3 ≠ 1; omega),
      assemble_octet,
      nextOctet_more (by show 0x80 ≤ _; omega) (by show _ ≤ 0xBF; omega)
        (by show 3 - 1 ≠ 1; omega),
      assemble_octet,
      nextOctet_last (by show 0x80 ≤ _; omega) (by show _ ≤ 0xBF; omega) rfl,
      ofNat_eq (c := c)
        (by show (((_ - 0xF0) * 0x40 + _) * 0x40 + _) * 0x40 + _ = _; omega)]
    rfl

end Form
end QueryCriteria
