import Mathlib.Data.List.Basic
import QueryCriteria.Number.Numeral

/-!
Integer literals, which are decimal digits with an optional minus sign before them.  They
are read as the number that the digits write unless there are too many digits, and the text
of an integer is such a literal.
-/
namespace QueryCriteria

namespace Text

theorem ne_minus_of_isDigit {c : Char} (h : c.isDigit = true) : c ≠ '-' := by
  rintro rfl
  exact absurd h (by decide)

theorem ne_of_minus_or_digit {c d : Char} (h : c = '-' ∨ c.isDigit = true) (hm : d ≠ '-')
    (hd : d.isDigit = false) : c ≠ d := by
  rintro rfl
  rcases h with h | h
  · exact hm h
  · rw [hd] at h
    cases h

theorem digit?_of_isDigit {c : Char} (h : c.isDigit = true) : digit? c = some (c.toNat - 48) := by
  have hc : 48 ≤ c.toNat ∧ c.toNat ≤ 57 := Char.isDigit_iff_toNat.1 h
  have hz : (decide (48 ≤ c.toNat) && decide (c.toNat < 48 + 10)) = true := by
    rw [Bool.and_eq_true, decide_eq_true_eq, decide_eq_true_eq]
    omega
  have hfind : ∀ zs : List Nat,
      (48 :: zs).find? (fun z => decide (z ≤ c.toNat) && decide (c.toNat < z + 10)) = some 48 :=
    fun zs => by rw [List.find?_cons, hz]
  exact congrArg (Option.map (c.toNat - ·)) (hfind _)

theorem digit?_of_nil : ∀ c ∈ ([] : List Char).head?, digit? c = none := by
  intro c hc
  cases hc

/-- A run of digits of any script ends where no digit follows. -/
theorem spanDigits_run {ds rest : List Char} (h : ∀ c ∈ ds, (digit? c).isSome = true)
    (hr : ∀ c ∈ rest.head?, digit? c = none) :
    spanDigits (ds ++ rest) = (ds.filterMap digit?, rest) := by
  induction ds with
  | nil =>
    cases rest with
    | nil => rfl
    | cons c rest =>
      have hc : digit? c = none := hr c rfl
      rw [List.nil_append, spanDigits, hc]
      rfl
  | cons c ds ih =>
    obtain ⟨d, hd⟩ := Option.isSome_iff_exists.1 (h c List.mem_cons_self)
    rw [List.cons_append, spanDigits, List.filterMap_cons, hd,
      ih fun e he => h e (List.mem_cons_of_mem c he)]

theorem spanDigits_append {ds rest : List Char} (h : ∀ c ∈ ds, c.isDigit = true)
    (hr : ∀ c ∈ rest.head?, digit? c = none) :
    spanDigits (ds ++ rest) = (ds.map fun c => c.toNat - 48, rest) := by
  have hdigit : ∀ c ∈ ds, digit? c = some (c.toNat - 48) := fun c hc => digit?_of_isDigit (h c hc)
  have hvalues : ds.filterMap digit? = ds.map fun c => c.toNat - 48 :=
    List.filterMap_eq_map_iff_forall_eq_some.2 hdigit
  rw [spanDigits_run (fun c hc => by rw [hdigit c hc]; rfl) hr, hvalues]

theorem ofDigits_map (ds : List Char) :
    ofDigits (ds.map fun c => c.toNat - 48) = Nat.ofDigitChars 10 ds 0 := by
  rw [ofDigits, List.foldl_map, Nat.ofDigitChars_eq_foldl]
  rfl

theorem isSpace_of_ascii {c : Char} (h : 33 ≤ c.toNat) (h' : c.toNat < 0x80) :
    isSpace c = false := by
  simp only [isSpace, Bool.or_eq_false_iff, Bool.and_eq_false_iff, decide_eq_false_iff_not,
    beq_eq_false_iff_ne]
  omega

theorem isBlank_of_ascii {c : Char} (h : 33 ≤ c.toNat) (h' : c.toNat < 0x80) :
    isBlank c = false := by
  rw [isBlank, isSpace_of_ascii h h', Bool.false_or, Bool.and_eq_false_iff,
    decide_eq_false_iff_not, decide_eq_false_iff_not]
  omega

theorem dropWhile_of_forall {p : Char → Bool} {cs : List Char} (h : ∀ c ∈ cs, p c = false) :
    cs.dropWhile p = cs := by
  cases cs with
  | nil => rfl
  | cons c cs => rw [List.dropWhile_cons_of_neg (by simp [h c List.mem_cons_self])]

theorem strip_of_forall {p : Char → Bool} {cs : List Char} (h : ∀ c ∈ cs, p c = false) :
    strip p cs = cs := by
  rw [strip, dropWhile_of_forall h, dropWhile_of_forall fun c hc => h c (List.mem_reverse.1 hc),
    List.reverse_reverse]

theorem dropSeparators_of_not_mem {cs : List Char} (h : '_' ∉ cs) (afterDigit : Bool) :
    dropSeparators afterDigit cs = some cs := by
  induction cs generalizing afterDigit with
  | nil => rfl
  | cons c cs ih =>
    simp only [List.mem_cons, not_or] at h
    rw [dropSeparators, ih h.2]
    · rfl
    · rintro rfl
      exact h.1 rfl

end Text

/-- An optional minus sign and digits. -/
structure IntegerLiteral where
  negative : Bool
  digits : List Char
  nonempty : digits ≠ []
  decimal : ∀ c ∈ digits, c.isDigit = true

namespace IntegerLiteral

def text (n : IntegerLiteral) : List Char := if n.negative then '-' :: n.digits else n.digits

def value (n : IntegerLiteral) : Int :=
  Numeral.withSign n.negative (Nat.ofDigitChars 10 n.digits 0)

/-- Whether a literal has no more digits than can be read. -/
def isShort (n : IntegerLiteral) : Bool := n.digits.length ≤ Numeral.maxDigits

theorem text_ne_nil (n : IntegerLiteral) : n.text ≠ [] := by
  rw [text]
  split
  · exact List.cons_ne_nil _ _
  · exact n.nonempty

theorem mem_text {n : IntegerLiteral} {c : Char} (h : c ∈ n.text) : c = '-' ∨ c.isDigit = true := by
  rw [text] at h
  split at h
  · exact (List.mem_cons.1 h).imp_right (n.decimal c)
  · exact .inr (n.decimal c h)

/-- A literal starts with a minus sign or a digit. -/
theorem exists_text_eq_cons (n : IntegerLiteral) :
    ∃ c cs, n.text = c :: cs ∧ (c = '-' ∨ c.isDigit = true) := by
  obtain ⟨c, cs, htext⟩ := List.exists_cons_of_ne_nil n.text_ne_nil
  exact ⟨c, cs, htext, mem_text (htext ▸ List.mem_cons_self)⟩

theorem head_append (n : IntegerLiteral) (rest : List Char) :
    ∀ c ∈ (n.text ++ rest).head?, c = '-' ∨ c.isDigit = true := by
  obtain ⟨d, ds, htext, hd⟩ := n.exists_text_eq_cons
  intro c hc
  rw [htext] at hc
  obtain rfl := Option.some.inj hc
  exact hd

/-- All characters of a literal are ASCII ones above the space. -/
theorem ascii_of_mem_text {n : IntegerLiteral} {c : Char} (h : c ∈ n.text) :
    33 ≤ c.toNat ∧ c.toNat < 0x80 := by
  rcases mem_text h with rfl | h
  · decide
  · have hc : 48 ≤ c.toNat ∧ c.toNat ≤ 57 := Char.isDigit_iff_toNat.1 h
    omega

theorem not_mem_text (n : IntegerLiteral) {c : Char} (hc : c ≠ '-') (hd : c.isDigit = false) :
    c ∉ n.text := by
  intro h
  exact Text.ne_of_minus_or_digit (mem_text h) hc hd rfl

theorem spanSign_append (n : IntegerLiteral) (rest : List Char) :
    Numeral.spanSign (n.text ++ rest) = (n.negative, n.digits ++ rest) := by
  rw [text]
  split
  · next h => rw [h]; rfl
  · next h =>
    rw [Bool.not_eq_true] at h
    obtain ⟨d, ds, hds⟩ := List.exists_cons_of_ne_nil n.nonempty
    have hd := Char.isDigit_iff_toNat.1 (n.decimal d (hds ▸ List.mem_cons_self))
    rw [h, hds, List.cons_append, Numeral.spanSign]
    · rintro cs ⟨⟩
      exact absurd hd (by decide)
    · rintro cs ⟨⟩
      exact absurd hd (by decide)

/-- What `Numeral.read?` makes of a literal. -/
def numeral (n : IntegerLiteral) : Numeral :=
  { negative := n.negative, whole := n.digits.map fun c => c.toNat - 48, fraction := none,
    power := none }

theorem read?_text (n : IntegerLiteral) : Numeral.read? n.text = some n.numeral := by
  have hne : (n.digits.map fun c => c.toNat - 48) ≠ [] := by simpa using n.nonempty
  have hsign := n.spanSign_append []
  have hdigits := Text.spanDigits_append n.decimal Text.digit?_of_nil
  rw [List.append_nil] at hsign
  rw [Numeral.read?]
  simp only [hsign, hdigits, Numeral.spanFraction]
  rw [if_neg (fun h => hne h.1)]
  rfl

/-- Where a literal goes on with a mark, the whole text is no number. -/
theorem read?_append (n : IntegerLiteral) {c : Char} (hc : c = ',' ∨ c = '=') (cs : List Char) :
    Numeral.read? (n.text ++ c :: cs) = none := by
  have hstop : ∀ d ∈ (c :: cs).head?, Text.digit? d = none := by
    intro d hd
    rw [← Option.some.inj hd]
    rcases hc with rfl | rfl <;> decide
  have hfraction : Numeral.spanFraction (c :: cs) = (none, c :: cs) := by
    rcases hc with rfl | rfl <;> rfl
  have hpower : Numeral.readPower? (c :: cs) = none := by
    rcases hc with rfl | rfl <;> rfl
  rw [Numeral.read?]
  simp only [n.spanSign_append, Text.spanDigits_append n.decimal hstop, hfraction, hpower]
  split <;> rfl

theorem toInt?_numeral (n : IntegerLiteral) :
    n.numeral.toInt? = if n.isShort then some n.value else none := by
  have hlength : n.numeral.whole.length = n.digits.length := List.length_map _
  have hvalue : Numeral.withSign n.negative (Text.ofDigits n.numeral.whole) = n.value := by
    rw [numeral, Text.ofDigits_map]
    rfl
  rw [Numeral.toInt?]
  by_cases h : n.isShort = true
  · have hshort : n.numeral.whole.length ≤ Numeral.maxDigits := by
      rw [hlength]
      exact of_decide_eq_true h
    rw [if_pos h, if_pos ⟨rfl, hshort⟩]
    exact congrArg some hvalue
  · rw [if_neg h, if_neg]
    intro hshort
    rw [hlength] at hshort
    exact h (decide_eq_true hshort.2)

theorem readInteger?_text {n : IntegerLiteral} (h : n.isShort = true) :
    readInteger? n.text = some n.value := by
  have hstrip : Text.strip Text.isSpace n.text = n.text := by
    refine Text.strip_of_forall fun c hc => ?_
    exact Text.isSpace_of_ascii (ascii_of_mem_text hc).1 (ascii_of_mem_text hc).2
  have hbars : '_' ∉ n.text := n.not_mem_text (by decide) (by decide)
  rw [readInteger?, Numeral.readLoose?, hstrip, Text.dropSeparators_of_not_mem hbars]
  show (Numeral.read? n.text).bind Numeral.toInt? = _
  rw [read?_text, Option.bind_some, toInt?_numeral, if_pos h]

/-- The literal that an integer is written as. -/
def ofInt (n : Int) : IntegerLiteral where
  negative := decide (n < 0)
  digits := naturalText n.natAbs
  nonempty := Nat.toDigits_ne_nil
  decimal _ hc := Nat.isDigit_of_mem_toDigits (by decide) (by decide) hc

theorem isShort_ofInt (n : Int) : (ofInt n).isShort = isWritable n := rfl

theorem text_ofInt (n : Int) : (ofInt n).text = integerText n := by
  cases n with
  | ofNat n => rfl
  | negSucc n =>
    show (if decide (Int.negSucc n < 0) then '-' :: naturalText (n + 1) else naturalText (n + 1)) = _
    rw [if_pos (decide_eq_true (Int.negSucc_lt_zero n))]
    rfl

theorem value_ofInt (n : Int) : (ofInt n).value = n := by
  show Numeral.withSign (decide (n < 0)) (Nat.ofDigitChars 10 (Nat.toDigits 10 n.natAbs) 0) = n
  rw [Nat.ofDigitChars_ten_toDigits]
  unfold Numeral.withSign
  split
  · next hn => rw [decide_eq_true_eq] at hn; omega
  · next hn => rw [decide_eq_true_eq] at hn; omega

end IntegerLiteral

end QueryCriteria
