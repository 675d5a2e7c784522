import QueryCriteria.Proofs.IntegerLiteral
import QueryCriteria.Proofs.Trimming

/-!
The grammar of written numbers.  A number is a sign, digits with or without a point among or beside
them, and a power of ten, each part but the digits optional; a single underscore may stand between
two digits, and spaces around the whole.  The reader, which drops the underscores first and then
takes the parts one after the other, accepts exactly the texts of the grammar.
-/
namespace QueryCriteria

namespace Text

variable {c : Char} {cs core plain : List Char} {afterDigit : Bool}

/-! ### Digits -/

/-- What holds for the ten digits of every script holds for all digits. -/
theorem forall_digit {P : Char → Prop} (h : ∀ z ∈ zeros, ∀ k < 10, P (Char.ofNat (z + k)))
    (hc : (digit? c).isSome = true) : P c := by
  rw [digit?, Option.isSome_map, List.find?_isSome] at hc
  obtain ⟨z, hz, hrange⟩ := hc
  rw [Bool.and_eq_true, decide_eq_true_eq, decide_eq_true_eq] at hrange
  have hsum : z + (c.toNat - z) = c.toNat := by omega
  have hP := h z hz (c.toNat - z) (by omega)
  rwa [hsum, Char.ofNat_toNat] at hP

theorem not_isBlank_of_digit (h : (digit? c).isSome = true) : isBlank c = false :=
  forall_digit (P := fun c => isBlank c = false) (by decide +kernel) h

/-- Digits with or without single underscores between them, and the values of the digits. -/
inductive Digits : List Char → List Nat → Prop where
  | one {c : Char} {d : Nat} (h : digit? c = some d) : Digits [c] [d]
  | next {c : Char} {d : Nat} {cs : List Char} {ds : List Nat} (h : digit? c = some d)
      (hrest : Digits cs ds) : Digits (c :: cs) (d :: ds)
  | separated {c : Char} {d : Nat} {cs : List Char} {ds : List Nat} (h : digit? c = some d)
      (hrest : Digits cs ds) : Digits (c :: '_' :: cs) (d :: ds)

theorem Digits.exists_cons {ds : List Nat} (h : Digits cs ds) :
    ∃ c rest, cs = c :: rest ∧ (digit? c).isSome = true := by
  cases h with
  | one h => exact ⟨_, _, rfl, Option.isSome_of_eq_some h⟩
  | next h _ => exact ⟨_, _, rfl, Option.isSome_of_eq_some h⟩
  | separated h _ => exact ⟨_, _, rfl, Option.isSome_of_eq_some h⟩

theorem Digits.not_isBlank {ds : List Nat} (h : Digits cs ds) : ∀ c ∈ cs, isBlank c = false := by
  have hdigit : ∀ {c : Char} {d : Nat}, digit? c = some d → isBlank c = false :=
    fun hc => not_isBlank_of_digit (Option.isSome_of_eq_some hc)
  induction h with
  | one h => exact List.forall_mem_singleton.2 (hdigit h)
  | next h _ ih => exact List.forall_mem_cons.2 ⟨hdigit h, ih⟩
  | separated h _ ih =>
    exact List.forall_mem_cons.2 ⟨hdigit h, List.forall_mem_cons.2 ⟨by decide, ih⟩⟩

theorem Digits.ne_nil {ds : List Nat} (h : Digits cs ds) : ds ≠ [] := by
  cases h <;> exact List.cons_ne_nil _ _

/-! ### Underscores -/

theorem dropSeparators_cons (h : c ≠ '_') (afterDigit : Bool) (cs : List Char) :
    dropSeparators afterDigit (c :: cs) =
      (dropSeparators (digit? c).isSome cs).map (c :: ·) := by
  rw [dropSeparators]
  rintro rfl
  exact h rfl

/-- The first character that is left is the first one of the text, or stands behind an underscore
after a digit. -/
theorem dropSeparators_eq_cons_iff : dropSeparators afterDigit core = some (c :: plain) ↔
    (c ≠ '_' ∧ ∃ rest, core = c :: rest ∧ dropSeparators (digit? c).isSome rest = some plain) ∨
      (afterDigit = true ∧ (digit? c).isSome = true ∧
        ∃ rest, core = '_' :: c :: rest ∧ dropSeparators true rest = some plain) := by
  constructor
  · intro h
    fun_cases dropSeparators afterDigit core with
    | case1 => cases h
    | case2 d rest hd =>
      rw [dropSeparators, if_pos hd, Option.map_eq_some_iff] at h
      obtain ⟨left, hleft, heq⟩ := h
      obtain ⟨rfl, rfl⟩ := List.cons.inj heq
      exact .inr ⟨rfl, hd, rest, rfl, hleft⟩
    | case3 d rest hd =>
      rw [dropSeparators, if_neg hd] at h
      cases h
    | case4 _ cs hother =>
      rw [dropSeparators] at h
      · cases h
      · exact hother
    | case5 _ d rest hbar =>
      have hne : d ≠ '_' := by
        rintro rfl
        exact hbar rfl
      rw [dropSeparators_cons hne, Option.map_eq_some_iff] at h
      obtain ⟨left, hleft, heq⟩ := h
      obtain ⟨rfl, rfl⟩ := List.cons.inj heq
      exact .inl ⟨hne, rest, rfl, hleft⟩
  · rintro (⟨hne, rest, rfl, hrest⟩ | ⟨rfl, hc, rest, rfl, hrest⟩)
    · rw [dropSeparators_cons hne, hrest]
      rfl
    · rw [dropSeparators, if_pos hc, hrest]
      rfl

theorem dropSeparators_eq_nil_iff : dropSeparators afterDigit core = some [] ↔ core = [] := by
  constructor
  · intro h
    fun_cases dropSeparators afterDigit core with
    | case1 => rfl
    | case2 d rest hd => simp [dropSeparators, hd] at h
    | case3 d rest hd => simp [dropSeparators, hd] at h
    | case4 _ cs hother =>
      rw [dropSeparators] at h
      · cases h
      · exact hother
    | case5 _ d rest hbar =>
      rw [dropSeparators_cons fun hd => hbar hd] at h
      simp at h
  · rintro rfl
    rfl

/-- What can be read with nothing in front of it can be read behind a digit. -/
theorem dropSeparators_behind (h : dropSeparators false core = some plain) (afterDigit : Bool) :
    dropSeparators afterDigit core = some plain := by
  cases plain with
  | nil =>
    rw [dropSeparators_eq_nil_iff] at h
    exact dropSeparators_eq_nil_iff.2 h
  | cons c plain =>
    rcases dropSeparators_eq_cons_iff.1 h with hplain | ⟨hfalse, -⟩
    · exact dropSeparators_eq_cons_iff.2 (.inl hplain)
    · cases hfalse

/-- No underscore ends a run of digits. -/
theorem dropSeparators_stop (h : dropSeparators true core = some plain)
    (hstop : ∀ c ∈ plain.head?, digit? c = none) : dropSeparators false core = some plain := by
  cases plain with
  | nil =>
    rw [dropSeparators_eq_nil_iff] at h
    exact dropSeparators_eq_nil_iff.2 h
  | cons c plain =>
    rcases dropSeparators_eq_cons_iff.1 h with hplain | ⟨-, hc, -⟩
    · exact dropSeparators_eq_cons_iff.2 (.inl hplain)
    · rw [hstop c rfl] at hc
      cases hc

theorem dropSeparators_other (hc : digit? c = none)
    (h : dropSeparators false core = some (c :: plain)) :
    ∃ rest, core = c :: rest ∧ dropSeparators false rest = some plain := by
  rcases dropSeparators_eq_cons_iff.1 h with ⟨-, rest, rfl, hrest⟩ | ⟨hfalse, -⟩
  · rw [hc] at hrest
    exact ⟨rest, rfl, hrest⟩
  · cases hfalse

theorem dropSeparators_cons_other (hc : digit? c = none) (hbar : c ≠ '_')
    (h : dropSeparators false core = some plain) :
    dropSeparators false (c :: core) = some (c :: plain) := by
  rw [dropSeparators_cons hbar, hc]
  show (dropSeparators false core).map _ = _
  rw [h]
  rfl

theorem ne_bar_of_digit (h : (digit? c).isSome = true) : c ≠ '_' := by
  rintro rfl
  exact absurd h (by decide)

theorem ne_sign_of_digit (h : (digit? c).isSome = true) : c ≠ '-' ∧ c ≠ '+' := by
  constructor
  · rintro rfl
    exact absurd h (by decide)
  · rintro rfl
    exact absurd h (by decide)

theorem dropSeparators_digit {d : Nat} (hc : digit? c = some d)
    (h : dropSeparators true core = some plain) :
    dropSeparators false (c :: core) = some (c :: plain) := by
  have hdigit : (digit? c).isSome = true := Option.isSome_of_eq_some hc
  rw [dropSeparators_cons (ne_bar_of_digit hdigit), hdigit, h]
  rfl

theorem spanDigits_digit {d : Nat} (hc : digit? c = some d) (cs : List Char) :
    spanDigits (c :: cs) = (d :: (spanDigits cs).1, (spanDigits cs).2) := by
  rw [spanDigits, hc]

/-- A run of digits that is left comes from digits with underscores between them. -/
theorem exists_digits {digits : List Char} (hne : digits ≠ [])
    (hdigits : ∀ c ∈ digits, (digit? c).isSome = true)
    (hstop : ∀ c ∈ plain.head?, digit? c = none)
    (h : dropSeparators false core = some (digits ++ plain)) :
    ∃ run rest, core = run ++ rest ∧ Digits run (digits.filterMap digit?) ∧
      dropSeparators false rest = some plain := by
  -- on the digits that are left, since an underscore goes with the digit behind it
  induction digits generalizing core with
  | nil => exact absurd rfl hne
  | cons c digits ih =>
    obtain ⟨d, hd⟩ := Option.isSome_iff_exists.1 (hdigits c List.mem_cons_self)
    rw [List.filterMap_cons, hd]
    rcases dropSeparators_eq_cons_iff.1 h with ⟨-, rest, rfl, hrest⟩ | ⟨hfalse, -⟩
    · rw [hd] at hrest
      cases digits with
      | nil => exact ⟨[c], rest, rfl, .one hd, dropSeparators_stop hrest hstop⟩
      | cons next digits =>
        have hdigits' : ∀ c ∈ next :: digits, (digit? c).isSome = true :=
          fun c hc => hdigits c (List.mem_cons_of_mem _ hc)
        rcases dropSeparators_eq_cons_iff.1 hrest with hplain | ⟨-, hnext, after, rfl, hafter⟩
        · obtain ⟨run, after, rfl, hrun, hafter⟩ :=
            ih (List.cons_ne_nil _ _) hdigits' (dropSeparators_eq_cons_iff.2 (.inl hplain))
          exact ⟨c :: run, after, rfl, .next hd hrun, hafter⟩
        -- the run goes on behind the underscore
        · obtain ⟨e, he⟩ := Option.isSome_iff_exists.1 hnext
          have hbehind : dropSeparators false (next :: after) = some (next :: (digits ++ plain)) :=
            dropSeparators_digit he hafter
          obtain ⟨run, after', hsplit, hrun, hafter'⟩ :=
            ih (List.cons_ne_nil _ _) hdigits' hbehind
          exact ⟨c :: '_' :: run, after', by rw [hsplit]; rfl, .separated hd hrun, hafter'⟩
    · cases hfalse

theorem spanDigits_stop (hstop : ∀ c ∈ plain.head?, digit? c = none) :
    spanDigits plain = ([], plain) := by
  have hnone : ∀ c ∈ ([] : List Char), (digit? c).isSome = true := nofun
  exact spanDigits_run hnone hstop

theorem exists_spanDigits (plain : List Char) :
    ∃ digits, plain = digits ++ (spanDigits plain).2 ∧
      (∀ c ∈ digits, (digit? c).isSome = true) ∧ (spanDigits plain).1 = digits.filterMap digit? ∧
      ∀ c ∈ (spanDigits plain).2.head?, digit? c = none := by
  induction plain with
  | nil => exact ⟨[], rfl, nofun, rfl, nofun⟩
  | cons c plain ih =>
    cases hc : digit? c with
    | none =>
      have hstop : ∀ d ∈ (c :: plain).head?, digit? d = none := by
        intro d hd
        rw [← Option.some.inj hd]
        exact hc
      rw [spanDigits_stop hstop]
      exact ⟨[], rfl, nofun, rfl, hstop⟩
    | some d =>
      obtain ⟨digits, hplain, hdigits, hvalues, hstop⟩ := ih
      rw [spanDigits_digit hc]
      refine ⟨c :: digits, congrArg (c :: ·) hplain, ?_, ?_, hstop⟩
      · rw [List.forall_mem_cons]
        exact ⟨Option.isSome_of_eq_some hc, hdigits⟩
      · rw [List.filterMap_cons, hc]
        exact congrArg (d :: ·) hvalues

theorem head_of_spanDigits {left : List Char} {ds : List Nat} (h : spanDigits left = (ds, plain)) :
    ∀ c ∈ left.head?, (digit? c).isSome = true ∨ c ∈ plain.head? := by
  intro c hc
  cases hdigit : digit? c with
  | some => exact .inl rfl
  | none =>
    right
    have hstop : ∀ d ∈ left.head?, digit? d = none := by
      intro d hd
      rwa [Option.some.inj (hd.symm.trans hc)]
    rw [spanDigits_stop hstop] at h
    rwa [← (Prod.mk.inj h).2]

/-- Digits with underscores between them are read as the run of the digits. -/
theorem Digits.exists_read {rest : List Char} {ds : List Nat} (h : Digits cs ds)
    (hrest : dropSeparators false rest = some plain)
    (hstop : ∀ c ∈ plain.head?, digit? c = none) :
    ∃ left, dropSeparators false (cs ++ rest) = some left ∧ spanDigits left = (ds, plain) := by
  induction h with
  | one hc =>
    refine ⟨_, dropSeparators_digit hc (dropSeparators_behind hrest true), ?_⟩
    rw [spanDigits_digit hc, spanDigits_stop hstop]
  | next hc _ ih =>
    obtain ⟨left, hleft, hvalues⟩ := ih
    refine ⟨_, dropSeparators_digit hc (dropSeparators_behind hleft true), ?_⟩
    rw [spanDigits_digit hc, hvalues]
  | separated hc hrun ih =>
    obtain ⟨left, hleft, hvalues⟩ := ih
    -- the run behind the underscore starts with a digit
    obtain ⟨e, left, rfl⟩ : ∃ e left', left = e :: left' := by
      refine List.exists_cons_of_ne_nil ?_
      rintro rfl
      exact hrun.ne_nil (Prod.mk.inj hvalues).1.symm
    have he : (digit? e).isSome = true := by
      cases hdigit : digit? e with
      | some => rfl
      | none =>
        rw [spanDigits, hdigit] at hvalues
        exact absurd (Prod.mk.inj hvalues).1.symm hrun.ne_nil
    rcases dropSeparators_eq_cons_iff.1 hleft with ⟨-, after, hsplit, hafter⟩ | ⟨hfalse, -⟩
    · rw [he] at hafter
      have hbehind := dropSeparators_eq_cons_iff.2
        (.inr ⟨rfl, he, after, congrArg ('_' :: ·) hsplit, hafter⟩)
      refine ⟨_, dropSeparators_digit hc hbehind, ?_⟩
      rw [spanDigits_digit hc, hvalues]
    · cases hfalse

end Text

namespace Numeral

open Text

/-! ### The parts of a number -/

/-- Whether a sign is a minus; no sign is a plus. -/
inductive Sign : List Char → Bool → Prop where
  | absent : Sign [] false
  | plus : Sign ['+'] false
  | minus : Sign ['-'] true

/-- Digits or nothing. -/
inductive OptionalDigits : List Char → List Nat → Prop where
  | absent : OptionalDigits [] []
  | digits {cs : List Char} {ds : List Nat} (h : Digits cs ds) : OptionalDigits cs ds

inductive Fraction : List Char → Option (List Nat) → Prop where
  | absent : Fraction [] none
  | point {cs : List Char} {ds : List Nat} (h : OptionalDigits cs ds) : Fraction ('.' :: cs) (some ds)

inductive PowerOfTen : List Char → Option (Bool × List Nat) → Prop where
  | absent : PowerOfTen [] none
  | power {e : Char} {sign cs : List Char} {negative : Bool} {ds : List Nat} (he : e = 'e' ∨ e = 'E')
      (hsign : Sign sign negative) (h : Digits cs ds) :
      PowerOfTen (e :: (sign ++ cs)) (some (negative, ds))

theorem Sign.spanSign_append {sign : List Char} {negative : Bool} (h : Sign sign negative) {c : Char}
    (hc : c ≠ '-' ∧ c ≠ '+') (cs : List Char) : spanSign (sign ++ c :: cs) = (negative, c :: cs) := by
  cases h with
  | absent =>
    rw [List.nil_append, spanSign]
    · rintro rest ⟨⟩
      exact hc.1 rfl
    · rintro rest ⟨⟩
      exact hc.2 rfl
  | plus => rfl
  | minus => rfl

/-- The parts one after the other, with a digit before or after the point. -/
inductive Written (n : Numeral) : List Char → Prop where
  | parts {sign whole fraction power : List Char} (hsign : Sign sign n.negative)
      (hwhole : OptionalDigits whole n.whole) (hfraction : Fraction fraction n.fraction)
      (hpower : PowerOfTen power n.power) (hdigit : n.whole ≠ [] ∨ n.fraction.getD [] ≠ []) :
      Written n (sign ++ (whole ++ (fraction ++ power)))

variable {core plain rest : List Char}

/-! ### Reading the parts -/

theorem exists_sign (h : dropSeparators false core = some plain) :
    ∃ sign rest, core = sign ++ rest ∧ Sign sign (spanSign plain).1 ∧
      dropSeparators false rest = some (spanSign plain).2 := by
  fun_cases spanSign plain with
  | case1 cs =>
    obtain ⟨rest, rfl, hrest⟩ := dropSeparators_other (by decide) h
    exact ⟨['-'], rest, rfl, .minus, hrest⟩
  | case2 cs =>
    obtain ⟨rest, rfl, hrest⟩ := dropSeparators_other (by decide) h
    exact ⟨['+'], rest, rfl, .plus, hrest⟩
  | case3 => exact ⟨[], core, rfl, .absent, h⟩

theorem exists_optionalDigits (h : dropSeparators false core = some plain) :
    ∃ digits rest, core = digits ++ rest ∧ OptionalDigits digits (spanDigits plain).1 ∧
      dropSeparators false rest = some (spanDigits plain).2 := by
  obtain ⟨digits, hplain, hdigits, hvalues, hstop⟩ := exists_spanDigits plain
  by_cases hnil : digits = []
  · subst hnil
    rw [hvalues, ← List.nil_append (spanDigits plain).2, ← hplain]
    exact ⟨[], core, rfl, .absent, h⟩
  · rw [hplain] at h
    obtain ⟨run, rest, rfl, hrun, hrest⟩ := exists_digits hnil hdigits hstop h
    rw [hvalues]
    exact ⟨run, rest, rfl, .digits hrun, hrest⟩

theorem exists_fraction (h : dropSeparators false core = some plain) :
    ∃ fraction rest, core = fraction ++ rest ∧ Fraction fraction (spanFraction plain).1 ∧
      dropSeparators false rest = some (spanFraction plain).2 := by
  fun_cases spanFraction plain with
  | case1 cs =>
    obtain ⟨after, rfl, hafter⟩ := dropSeparators_other (by decide) h
    obtain ⟨digits, rest, rfl, hdigits, hrest⟩ := exists_optionalDigits hafter
    exact ⟨'.' :: digits, rest, rfl, .point hdigits, hrest⟩
  | case2 => exact ⟨[], core, rfl, .absent, h⟩

theorem digit?_of_isPowerMark {e : Char} (he : e = 'e' ∨ e = 'E') : digit? e = none := by
  rcases he with rfl | rfl <;> decide

theorem powerOfTen_of_readPower? {power : Option (Bool × List Nat)}
    (h : dropSeparators false core = some plain) (hpower : readPower? plain = some power) :
    PowerOfTen core power := by
  cases plain with
  | nil =>
    rw [dropSeparators_eq_nil_iff] at h
    rw [h, ← Option.some.inj hpower]
    exact .absent
  | cons e cs =>
    rw [readPower?] at hpower
    split at hpower
    · next he =>
      obtain ⟨after, rfl, hafter⟩ := dropSeparators_other (digit?_of_isPowerMark he) h
      obtain ⟨sign, unsigned, rfl, hsign, hunsigned⟩ := exists_sign hafter
      obtain ⟨digits, rest, rfl, hdigits, hrest⟩ := exists_optionalDigits hunsigned
      split at hpower
      · next d ds hspan =>
        rw [hspan] at hdigits hrest
        rw [dropSeparators_eq_nil_iff] at hrest
        obtain rfl := Option.some.inj hpower
        rw [hrest, List.append_nil]
        cases hdigits with
        | digits hdigits => exact .power he hsign hdigits
      · cases hpower
    · cases hpower

theorem written_of_read? {n : Numeral} (h : dropSeparators false core = some plain)
    (hread : read? plain = some n) : n.Written core := by
  obtain ⟨sign, unsigned, rfl, hsign, hunsigned⟩ := exists_sign h
  obtain ⟨whole, pointed, rfl, hwhole, hpointed⟩ := exists_optionalDigits hunsigned
  obtain ⟨fraction, power, rfl, hfraction, hpower⟩ := exists_fraction hpointed
  rw [read?] at hread
  split at hread
  · cases hread
  · next hdigit =>
    obtain ⟨p, hp, rfl⟩ := Option.map_eq_some_iff.1 hread
    refine .parts hsign hwhole hfraction (powerOfTen_of_readPower? hpower hp) ?_
    rwa [not_and_or] at hdigit

/-! ### Writing the parts -/

theorem Sign.exists_read {sign : List Char} {negative : Bool} (h : Sign sign negative)
    (hrest : dropSeparators false rest = some plain)
    (hstop : ∀ c ∈ plain.head?, c ≠ '-' ∧ c ≠ '+') :
    ∃ left, dropSeparators false (sign ++ rest) = some left ∧ spanSign left = (negative, plain) := by
  cases h with
  | absent =>
    refine ⟨plain, hrest, ?_⟩
    cases plain with
    | nil => rfl
    | cons c cs => exact Sign.absent.spanSign_append (hstop c rfl) cs
  | plus => exact ⟨'+' :: plain, dropSeparators_cons_other (by decide) (by decide) hrest, rfl⟩
  | minus => exact ⟨'-' :: plain, dropSeparators_cons_other (by decide) (by decide) hrest, rfl⟩

theorem OptionalDigits.exists_read {cs : List Char} {ds : List Nat} (h : OptionalDigits cs ds)
    (hrest : dropSeparators false rest = some plain)
    (hstop : ∀ c ∈ plain.head?, digit? c = none) :
    ∃ left, dropSeparators false (cs ++ rest) = some left ∧ spanDigits left = (ds, plain) := by
  cases h with
  | absent => exact ⟨plain, hrest, spanDigits_stop hstop⟩
  | digits h => exact h.exists_read hrest hstop

theorem Fraction.exists_read {cs : List Char} {fraction : Option (List Nat)}
    (h : Fraction cs fraction) (hrest : dropSeparators false rest = some plain)
    (hstop : ∀ c ∈ plain.head?, c = 'e' ∨ c = 'E') :
    ∃ left, dropSeparators false (cs ++ rest) = some left ∧ spanFraction left = (fraction, plain) ∧
      ∀ c ∈ left.head?, c = '.' ∨ c = 'e' ∨ c = 'E' := by
  cases h with
  | absent =>
    refine ⟨plain, hrest, ?_, fun c hc => .inr (hstop c hc)⟩
    rw [spanFraction]
    rintro cs rfl
    exact absurd (hstop '.' rfl) (by decide)
  | point h =>
    obtain ⟨left, hleft, hspan⟩ := h.exists_read hrest fun c hc => digit?_of_isPowerMark (hstop c hc)
    refine ⟨'.' :: left, dropSeparators_cons_other (by decide) (by decide) hleft, ?_, ?_⟩
    · rw [spanFraction, hspan]
    · intro c hc
      exact .inl (Option.some.inj hc).symm

theorem PowerOfTen.exists_read {cs : List Char} {power : Option (Bool × List Nat)}
    (h : PowerOfTen cs power) :
    ∃ left, dropSeparators false cs = some left ∧ readPower? left = some power ∧
      ∀ c ∈ left.head?, c = 'e' ∨ c = 'E' := by
  cases h with
  | absent => exact ⟨[], rfl, rfl, nofun⟩
  | @power e sign cs negative ds he hsign h =>
    have hend : dropSeparators false [] = some [] := rfl
    obtain ⟨digits, hdigits, hspan⟩ := h.exists_read hend nofun
    rw [List.append_nil] at hdigits
    have hstop : ∀ c ∈ digits.head?, c ≠ '-' ∧ c ≠ '+' := by
      intro c hc
      rcases head_of_spanDigits hspan c hc with hdigit | hnil
      · exact ne_sign_of_digit hdigit
      · cases hnil
    obtain ⟨left, hleft, hsigned⟩ := hsign.exists_read hdigits hstop
    have hbar : e ≠ '_' := by
      rcases he with rfl | rfl <;> decide
    refine ⟨e :: left, dropSeparators_cons_other (digit?_of_isPowerMark he) hbar hleft, ?_, ?_⟩
    · obtain ⟨d, ds', rfl⟩ := List.exists_cons_of_ne_nil h.ne_nil
      rw [readPower?, if_pos he, hsigned]
      simp only [hspan]
    · intro c hc
      rwa [← Option.some.inj hc]

theorem exists_read_of_written {n : Numeral} (h : n.Written core) :
    ∃ plain, dropSeparators false core = some plain ∧ read? plain = some n := by
  cases h with
  | parts hsign hwhole hfraction hpower hdigit =>
    obtain ⟨power, hdrop, hread, hmark⟩ := hpower.exists_read
    obtain ⟨pointed, hpointed, hspanFraction, hpoint⟩ := hfraction.exists_read hdrop hmark
    have hnodigit : ∀ c ∈ pointed.head?, digit? c = none := by
      intro c hc
      rcases hpoint c hc with rfl | rfl | rfl <;> decide
    obtain ⟨unsigned, hunsigned, hspanDigits⟩ := hwhole.exists_read hpointed hnodigit
    have hnosign : ∀ c ∈ unsigned.head?, c ≠ '-' ∧ c ≠ '+' := by
      intro c hc
      rcases head_of_spanDigits hspanDigits c hc with hdigit | hhead
      · exact ne_sign_of_digit hdigit
      · rcases hpoint c hhead with rfl | rfl | rfl <;> decide
    obtain ⟨plain, hplain, hspanSign⟩ := hsign.exists_read hunsigned hnosign
    refine ⟨plain, hplain, ?_⟩
    rw [read?]
    simp only [hspanSign, hspanDigits, hspanFraction, hread]
    rw [if_neg (not_and_or.2 hdigit)]
    rfl

/-- The reader accepts exactly the numbers of the grammar. -/
theorem read?_eq_some_iff {n : Numeral} :
    (dropSeparators false core).bind read? = some n ↔ n.Written core := by
  constructor
  · intro h
    obtain ⟨plain, hplain, hread⟩ := Option.bind_eq_some_iff.1 h
    exact written_of_read? hplain hread
  · intro h
    obtain ⟨plain, hplain, hread⟩ := exists_read_of_written h
    exact Option.bind_eq_some_iff.2 ⟨plain, hplain, hread⟩

/-! ### Numbers in a text -/

theorem Sign.not_isBlank {sign : List Char} {negative : Bool} (h : Sign sign negative) :
    ∀ c ∈ sign, isBlank c = false := by
  cases h with
  | absent => exact nofun
  | plus => exact List.forall_mem_singleton.2 rfl
  | minus => exact List.forall_mem_singleton.2 rfl

theorem OptionalDigits.not_isBlank {cs : List Char} {ds : List Nat} (h : OptionalDigits cs ds) :
    ∀ c ∈ cs, isBlank c = false := by
  cases h with
  | absent => exact nofun
  | digits h => exact h.not_isBlank

theorem Fraction.not_isBlank {cs : List Char} {fraction : Option (List Nat)}
    (h : Fraction cs fraction) : ∀ c ∈ cs, isBlank c = false := by
  cases h with
  | absent => exact nofun
  | point h => exact List.forall_mem_cons.2 ⟨by decide, h.not_isBlank⟩

theorem PowerOfTen.not_isBlank {cs : List Char} {power : Option (Bool × List Nat)}
    (h : PowerOfTen cs power) : ∀ c ∈ cs, isBlank c = false := by
  cases h with
  | absent => exact nofun
  | power he hsign h =>
    refine List.forall_mem_cons.2 ⟨?_, List.forall_mem_append.2 ⟨hsign.not_isBlank, h.not_isBlank⟩⟩
    rcases he with rfl | rfl <;> decide

theorem Written.not_isBlank {n : Numeral} (h : n.Written core) : ∀ c ∈ core, isBlank c = false := by
  cases h with
  | parts hsign hwhole hfraction hpower _ =>
    rw [List.forall_mem_append, List.forall_mem_append, List.forall_mem_append]
    exact ⟨hsign.not_isBlank, hwhole.not_isBlank, hfraction.not_isBlank, hpower.not_isBlank⟩

/-- The number stands in the text with nothing but blanks around it. -/
def StandsIn (n : Numeral) (text : List Char) : Prop :=
  ∃ core, Padded isBlank core text ∧ n.Written core

theorem standsIn_iff {n : Numeral} {text : List Char} : n.StandsIn text ↔ n.Written (trim text) := by
  constructor
  · rintro ⟨core, hpadded, hcore⟩
    have hbare : Bare isBlank core :=
      ⟨fun c hc => hcore.not_isBlank c (List.mem_of_head? hc),
        fun c hc => hcore.not_isBlank c (List.mem_of_getLast? hc)⟩
    rwa [trim, hpadded.strip_eq hbare]
  · exact fun h => ⟨trim text, padded_strip isBlank text, h⟩

theorem strip_isSpace_trim (text : List Char) : strip isSpace (trim text) = trim text :=
  strip_eq_self ((bare_strip isBlank text).mono fun _ => isBlank_of_isSpace)

/-- A trimmed text is read as a number exactly if the number stands in the text. -/
theorem readLoose?_trim_iff {n : Numeral} {text : List Char} :
    readLoose? (trim text) = some n ↔ n.StandsIn text := by
  rw [readLoose?, strip_isSpace_trim, read?_eq_some_iff, standsIn_iff]

/-- At most one number stands in a text. -/
theorem StandsIn.unique {n m : Numeral} {text : List Char} (hn : n.StandsIn text)
    (hm : m.StandsIn text) : n = m := by
  rw [← readLoose?_trim_iff] at hn hm
  exact Option.some.inj (hn.symm.trans hm)

end Numeral
end QueryCriteria
