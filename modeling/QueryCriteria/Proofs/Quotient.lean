import QueryCriteria.Number.Binary64
import Mathlib.Tactic.Ring

/-!
Quotients of integers in floating point.  A quotient that is at least one is not rounded to
zero, and so the least integer that is not below it is positive.  Whether that integer is also the
ceiling of the quotient itself depends on the unit of its last digit: in units of at most one, the
part above an integer must not be rounded away, and in larger units the ceiling has to be a
multiple of the unit.  For integers up to `2 ^ 53` it always is.
-/
namespace QueryCriteria
namespace Binary64

theorem floorLog_nonneg {num den : Nat} (hden : 0 < den) (h : den ≤ num) :
    0 ≤ floorLog num den := by
  have hlog : den.log2 ≤ num.log2 := by
    have hnum : num ≠ 0 := by omega
    rw [Nat.le_log2 hnum]
    exact Nat.le_trans (Nat.log2_self_le (by omega)) h
  rw [floorLog]
  split
  · omega
  · next hlt =>
    -- the same logarithm would make the comparison hold
    have hne : den.log2 ≠ num.log2 := by
      intro he
      rw [he] at hlt
      exact hlt (Nat.mul_le_mul_right _ h)
    omega

theorem roundRatio_pos {num den : Nat} (hden : 0 < den) (h : den ≤ num) :
    0 < roundRatio num den := by
  have hlog := floorLog_nonneg hden h
  have hbinade : 0 < binade := twoTo_pos 52
  have hinfinity : 0 < infinity := Nat.mul_pos (by decide) hbinade
  have hunit : 0 < (max (floorLog num den - 52) (-1074) + 1074).toNat := by omega
  have hscaled := Nat.mul_pos hunit hbinade
  rw [roundRatio, if_neg (by omega)]
  show 0 < min (_ + _) infinity
  omega

theorem significand_pos {x : Binary64} (h : 0 < x.magnitude) : 0 < x.significand := by
  have hbinade : 0 < binade := twoTo_pos 52
  rw [significand]
  split
  · exact h
  · omega

theorem ceil?_pos {x : Binary64} (hsign : x.negative = false) (h : 0 < x.magnitude) {n : Int}
    (hn : x.ceil? = some n) : 0 < n := by
  have hvalue : 0 < Numeral.withSign x.negative x.significand := by
    have hpos := significand_pos h
    rw [hsign]
    show (0 : Int) < (x.significand : Int)
    omega
  rw [ceil?] at hn
  split at hn
  · have hscale : ∀ k, (0 : Int) < (twoTo k : Int) := by
      intro k
      have := twoTo_pos k
      omega
    obtain rfl := Option.some.inj hn
    split
    · exact Int.mul_pos hvalue (hscale _)
    · have hlt := Int.ediv_neg_of_neg_of_pos (Int.neg_neg_of_pos hvalue)
        (hscale (-x.exponent).toNat)
      omega
  · cases hn

theorem ceil?_ofQuotient_pos {a b : Int} (hb : 0 < b) (h : b ≤ a) {n : Int}
    (hn : (ofQuotient a b).ceil? = some n) : 0 < n := by
  refine ceil?_pos ?_ ?_ hn
  · show (decide (a < 0) != decide (b < 0)) = false
    rw [decide_eq_false (by omega), decide_eq_false (by omega)]
    rfl
  · exact roundRatio_pos (by omega) (by omega)

/-! ### Rounding to an integer -/

/-- A quotient is rounded to `m` or less if it is nearer to `m` than to `m + 1`, or as near and
`m` is even. -/
theorem roundHalfEven_le_iff {num den m : Nat} (hden : 0 < den) :
    roundHalfEven num den ≤ m ↔
      2 * num < (2 * m + 1) * den ∨ 2 * num = (2 * m + 1) * den ∧ m % 2 = 0 := by
  have hparts := Nat.div_add_mod num den
  have hrest := Nat.mod_lt num hden
  have hhalf : (2 * m + 1) * den = 2 * (m * den) + den := by ring
  rw [Nat.mul_comm] at hparts
  rw [hhalf]
  rcases Nat.lt_trichotomy (num / den) m with hlt | heq | hgt
  · have hscaled := Nat.mul_le_mul_right den hlt
    rw [Nat.succ_mul] at hscaled
    have hle : roundHalfEven num den ≤ m := by
      unfold roundHalfEven
      dsimp only
      split
      · omega
      · split <;> omega
    exact iff_of_true hle (.inl (by omega))
  · rw [heq] at hparts
    unfold roundHalfEven
    dsimp only
    rw [heq]
    split
    · omega
    · split <;> omega
  · have hscaled := Nat.mul_le_mul_right den hgt
    rw [Nat.succ_mul] at hscaled
    have hlt : m < roundHalfEven num den := by
      unfold roundHalfEven
      dsimp only
      split
      · omega
      · split <;> omega
    exact iff_of_false (by omega) (by omega)

theorem roundHalfEven_le {num den m : Nat} (hden : 0 < den) (h : num ≤ m * den) :
    roundHalfEven num den ≤ m := by
  have hhalf : (2 * m + 1) * den = 2 * (m * den) + den := by ring
  rw [roundHalfEven_le_iff hden, hhalf]
  omega

theorem le_roundHalfEven {num den m : Nat} (hden : 0 < den) (h : m * den ≤ num) :
    m ≤ roundHalfEven num den := by
  cases m with
  | zero => exact Nat.zero_le _
  | succ m =>
    have hhalf : (2 * m + 1) * den = 2 * (m * den) + den := by ring
    rw [Nat.succ_mul] at h
    rw [Nat.succ_le_iff, ← Nat.not_le, roundHalfEven_le_iff hden, hhalf]
    omega

/-! ### Rounding a quotient -/

theorem twoTo_eq (n : Nat) : twoTo n = 2 ^ n := rfl

theorem floorLog_bounds {num den : Nat} (hden : 0 < den) (h : den ≤ num) :
    ∃ e : Nat, floorLog num den = e ∧ den * 2 ^ e ≤ num ∧ num < den * 2 ^ (e + 1) := by
  have hnum : num ≠ 0 := by omega
  have hnumlog := Nat.log2_self_le hnum
  have hnumlt := Nat.lt_log2_self (n := num)
  have hdenlog := Nat.log2_self_le (n := den) (by omega)
  have hdenlt := Nat.lt_log2_self (n := den)
  have hnonneg := floorLog_nonneg hden h
  rw [floorLog] at hnonneg ⊢
  by_cases hle : den * twoTo num.log2 ≤ num * twoTo den.log2
  · rw [if_pos hle] at hnonneg ⊢
    rw [twoTo_eq, twoTo_eq] at hle
    obtain ⟨e, he⟩ : ∃ e, num.log2 = den.log2 + e := ⟨num.log2 - den.log2, by omega⟩
    rw [he] at hle hnumlt ⊢
    refine ⟨e, by omega, ?_, ?_⟩
    · refine Nat.le_of_mul_le_mul_right ?_ (Nat.two_pow_pos den.log2)
      calc den * 2 ^ e * 2 ^ den.log2 = den * 2 ^ (den.log2 + e) := by ring
        _ ≤ num * 2 ^ den.log2 := hle
    · calc num < 2 ^ (den.log2 + e + 1) := hnumlt
        _ = 2 ^ den.log2 * 2 ^ (e + 1) := by ring
        _ ≤ den * 2 ^ (e + 1) := Nat.mul_le_mul_right _ hdenlog
  · rw [if_neg hle] at hnonneg ⊢
    rw [twoTo_eq, twoTo_eq] at hle
    obtain ⟨e, he⟩ : ∃ e, num.log2 = den.log2 + e + 1 := ⟨num.log2 - den.log2 - 1, by omega⟩
    rw [he] at hle hnumlog ⊢
    refine ⟨e, by omega, ?_, ?_⟩
    · calc den * 2 ^ e ≤ 2 ^ (den.log2 + 1) * 2 ^ e := Nat.mul_le_mul_right _ hdenlt.le
        _ = 2 ^ (den.log2 + e + 1) := by ring
        _ ≤ num := hnumlog
    · refine Nat.lt_of_mul_lt_mul_right (a := 2 ^ den.log2) ?_
      calc num * 2 ^ den.log2 < den * 2 ^ (den.log2 + e + 1) := Nat.not_le.1 hle
        _ = den * 2 ^ (e + 1) * 2 ^ den.log2 := by ring

theorem log2_eq_of_bounds {num den e : Nat} (hden : 0 < den) (hle : den * 2 ^ e ≤ num)
    (hlt : num < den * 2 ^ (e + 1)) : (num / den).log2 = e := by
  have hlow : 2 ^ e ≤ num / den := by rwa [Nat.le_div_iff_mul_le hden, Nat.mul_comm]
  have hhigh : num / den < 2 ^ (e + 1) := by rwa [Nat.div_lt_iff_lt_mul hden, Nat.mul_comm]
  have hpos := Nat.two_pow_pos e
  exact (Nat.log2_eq_iff (by omega)).2 ⟨hlow, hhigh⟩

/-- A quotient between `2 ^ e` and `2 ^ (e + 1)`, rounded to units of the last of 53 digits.
The unit is `2 ^ (e - 52)`, and one of the two powers here is one. -/
def roundedUnits (num den e : Nat) : Nat :=
  roundHalfEven (num * 2 ^ (52 - e)) (den * 2 ^ (e - 52))

theorem roundRatio_eq {num den e : Nat} (hden : 0 < den) (h : den ≤ num)
    (hlog : floorLog num den = e) :
    roundRatio num den = min ((e + 1022) * binade + roundedUnits num den e) infinity := by
  have hunit : max (floorLog num den - 52) (-1074) = (e : Int) - 52 := by omega
  rw [roundRatio, if_neg (by omega), roundedUnits]
  simp only [hunit]
  have hplace : ((e : Int) - 52 + 1074).toNat = e + 1022 := by omega
  rw [hplace]
  by_cases hsmall : e < 52
  · have hscale : (-((e : Int) - 52)).toNat = 52 - e := by omega
    have hwhole : e - 52 = 0 := by omega
    rw [if_neg (by omega), hscale, hwhole, twoTo_eq, Nat.pow_zero, Nat.mul_one]
  · have hscale : ((e : Int) - 52).toNat = e - 52 := by omega
    have hwhole : 52 - e = 0 := by omega
    rw [if_pos (by omega), hscale, hwhole, twoTo_eq, Nat.pow_zero, Nat.mul_one]

/-- A rounded quotient has 53 digits, or carries over to the next power of two. -/
theorem roundedUnits_bounds {num den e : Nat} (hden : 0 < den) (hle : den * 2 ^ e ≤ num)
    (hlt : num < den * 2 ^ (e + 1)) :
    2 ^ 52 ≤ roundedUnits num den e ∧ roundedUnits num den e ≤ 2 ^ 53 := by
  have hscaled : 0 < den * 2 ^ (e - 52) := Nat.mul_pos hden (Nat.two_pow_pos _)
  have hexponent : 52 + (e - 52) = e + (52 - e) := by omega
  refine ⟨le_roundHalfEven hscaled ?_, roundHalfEven_le hscaled ?_⟩
  · calc 2 ^ 52 * (den * 2 ^ (e - 52)) = den * 2 ^ (52 + (e - 52)) := by ring
      _ = den * 2 ^ e * 2 ^ (52 - e) := by rw [hexponent]; ring
      _ ≤ num * 2 ^ (52 - e) := Nat.mul_le_mul_right _ hle
  · calc num * 2 ^ (52 - e) ≤ den * 2 ^ (e + 1) * 2 ^ (52 - e) := Nat.mul_le_mul_right _ hlt.le
      _ = 2 * (den * 2 ^ (e + (52 - e))) := by ring
      _ = 2 ^ 53 * (den * 2 ^ (e - 52)) := by rw [← hexponent]; ring

/-! ### Overflow -/

/-- Quotients from here on are rounded to infinity: they are nearer to `2 ^ 1024` than to the
largest number, or as near. -/
def overflow : Nat := (2 ^ 54 - 1) * 2 ^ 970

theorem magnitude_lt_infinity_iff {e r : Nat} (hunit : 2 ^ 52 ≤ r) (hcarry : r ≤ 2 ^ 53) :
    min ((e + 1022) * binade + r) infinity < infinity ↔ e < 1023 ∨ e = 1023 ∧ r < 2 ^ 53 := by
  have hbinade : binade = 2 ^ 52 := rfl
  have hinfinity : infinity = 2047 * 2 ^ 52 := rfl
  rw [hbinade, hinfinity]
  omega

theorem roundedUnits_lt_iff {num den : Nat} (hden : 0 < den) (s : Nat) :
    roundedUnits num den (53 + s) < 2 ^ 53 ↔ num < den * ((2 ^ 54 - 1) * 2 ^ s) := by
  have hsmall : 52 - (53 + s) = 0 := by omega
  have hlarge : 53 + s - 52 = s + 1 := by omega
  have hodd : 2 * (2 ^ 53 - 1) + 1 = 2 ^ 54 - 1 := rfl
  have hhalf : (2 ^ 54 - 1) * (den * 2 ^ (s + 1)) = 2 * (den * ((2 ^ 54 - 1) * 2 ^ s)) := by
    rw [Nat.pow_succ 2 s]
    ac_rfl
  rw [roundedUnits, hsmall, hlarge, Nat.pow_zero, Nat.mul_one, Nat.lt_iff_le_pred (by decide)]
  show roundHalfEven num (den * 2 ^ (s + 1)) ≤ 2 ^ 53 - 1 ↔ _
  rw [roundHalfEven_le_iff (Nat.mul_pos hden (Nat.two_pow_pos (s + 1))), hodd, hhalf]
  -- the largest significand is odd, so that a tie goes to the power of two
  have hoddLast : ¬(2 ^ 53 - 1) % 2 = 0 := by decide
  rw [or_iff_left fun h => hoddLast h.2]
  exact Nat.mul_lt_mul_left (by decide)

theorem roundRatio_lt_infinity_iff {num den : Nat} (hden : 0 < den) (h : den ≤ num) :
    roundRatio num den < infinity ↔ num < den * overflow := by
  obtain ⟨e, hlog, hle, hlt⟩ := floorLog_bounds hden h
  obtain ⟨hunit, hcarry⟩ := roundedUnits_bounds hden hle hlt
  -- the exponent is a variable from here on, so that nothing evaluates the power
  obtain ⟨s, hs⟩ : ∃ s, s = 970 := ⟨_, rfl⟩
  have hlargest : 1023 = 53 + s := by rw [hs]
  rw [roundRatio_eq hden h hlog, magnitude_lt_infinity_iff hunit hcarry, overflow, ← hs, hlargest]
  clear hs hlargest
  rcases Nat.lt_trichotomy e (53 + s) with hsmall | rfl | hlarge
  · have hbound : den * 2 ^ (e + 1) ≤ den * ((2 ^ 54 - 1) * 2 ^ s) := by
      refine Nat.mul_le_mul_left _ ((Nat.pow_le_pow_right (by decide) hsmall).trans ?_)
      rw [Nat.pow_add]
      exact Nat.mul_le_mul_right _ (by decide)
    exact iff_of_true (.inl hsmall) (hlt.trans_le hbound)
  · rw [or_iff_right (Nat.lt_irrefl _), and_iff_right rfl]
    exact roundedUnits_lt_iff hden s
  · have hexponent : 54 + s ≤ e := by omega
    have hbound : den * ((2 ^ 54 - 1) * 2 ^ s) ≤ den * 2 ^ e := by
      refine Nat.mul_le_mul_left _ (le_trans ?_ (Nat.pow_le_pow_right (by decide) hexponent))
      rw [Nat.pow_add]
      exact Nat.mul_le_mul_right _ (by decide)
    refine iff_of_false ?_ (Nat.not_lt.2 (hbound.trans hle))
    omega

/-! ### The ceiling of a rounded quotient -/

/-- The least integer that is not below a quotient. -/
theorem neg_ediv_neg_eq {n d p : Nat} (hd : 0 < d) (hlow : p * d < n) (hhigh : n ≤ (p + 1) * d) :
    -(-(n : Int) / d) = (p : Int) + 1 := by
  have hd' : (0 : Int) < d := by exact_mod_cast hd
  have hlow' : (p : Int) * d < n := by exact_mod_cast hlow
  have hhigh' : (n : Int) ≤ (p + 1) * d := by exact_mod_cast hhigh
  have hle : -((p : Int) + 1) ≤ -(n : Int) / d := by
    rw [Int.le_ediv_iff_mul_le hd', Int.neg_mul]
    omega
  have hlt : -(n : Int) / d < -(p : Int) := by
    rw [Int.ediv_lt_iff_lt_mul hd', Int.neg_mul]
    omega
  omega

/-- The magnitude of a normal number, taken apart. -/
theorem significand_exponent {x : Binary64} {n s : Nat} (hx : x.magnitude = (n + 1) * binade + s)
    (hs : s < binade) : x.significand = s + binade ∧ x.exponent = (n : Int) - 1074 := by
  have hbinade : 0 < binade := twoTo_pos 52
  have hlarge : ¬x.magnitude < binade := by
    rw [hx, Nat.succ_mul]
    omega
  have hquotient : x.magnitude / binade = n + 1 := by
    rw [hx, Nat.mul_comm, Nat.mul_add_div hbinade, Nat.div_eq_of_lt hs, Nat.add_zero]
  have hrest : x.magnitude % binade = s := by
    rw [hx, Nat.mul_comm, Nat.mul_add_mod, Nat.mod_eq_of_lt hs]
  rw [significand, exponent, if_neg hlarge, if_neg hlarge, hquotient, hrest]
  exact ⟨rfl, by omega⟩

/-- The ceiling of a number `r / 2 ^ k`, which may be stored with a smaller significand. -/
theorem ceil?_of_bounds {x : Binary64} (hfinite : x.isFinite = true) (hsign : x.negative = false)
    {r k a p : Nat} (hr : x.significand * 2 ^ a = r) (he : x.exponent = (a : Int) - k)
    (hlow : p * 2 ^ k < r) (hhigh : r ≤ (p + 1) * 2 ^ k) : x.ceil? = some ((p : Int) + 1) := by
  rw [ceil?, if_pos hfinite, hsign]
  simp only [Numeral.withSign, Bool.false_eq_true, if_false, Option.some.injEq, twoTo_eq]
  split
  · next hexponent =>
    obtain ⟨t, ht⟩ : ∃ t, a = k + t := ⟨a - k, by omega⟩
    have htoNat : x.exponent.toNat = t := by omega
    rw [htoNat]
    subst ht hr
    have hscaled : x.significand * 2 ^ (k + t) = x.significand * 2 ^ t * 2 ^ k := by ring
    rw [hscaled] at hlow hhigh
    have h1 := Nat.lt_of_mul_lt_mul_right hlow
    have h2 := Nat.le_of_mul_le_mul_right hhigh (Nat.two_pow_pos k)
    have h3 : x.significand * 2 ^ t = p + 1 := by omega
    exact_mod_cast h3
  · next hexponent =>
    obtain ⟨t, ht⟩ : ∃ t, k = t + a := ⟨k - a, by omega⟩
    have htoNat : (-x.exponent).toNat = t := by omega
    rw [htoNat]
    subst ht hr
    have hl : p * 2 ^ (t + a) = p * 2 ^ t * 2 ^ a := by ring
    have hh : (p + 1) * 2 ^ (t + a) = (p + 1) * 2 ^ t * 2 ^ a := by ring
    rw [hl] at hlow
    rw [hh] at hhigh
    have h1 := Nat.lt_of_mul_lt_mul_right hlow
    have h2 := Nat.le_of_mul_le_mul_right hhigh (Nat.two_pow_pos a)
    have hceil := neg_ediv_neg_eq (Nat.two_pow_pos t) h1 h2
    exact_mod_cast hceil

theorem exists_ceil?_iff {x : Binary64} : (∃ n, x.ceil? = some n) ↔ x.magnitude < infinity := by
  rw [ceil?]
  constructor
  · rintro ⟨n, hn⟩
    split at hn
    · next hfinite => exact of_decide_eq_true hfinite
    · cases hn
  · intro hfinite
    exact ⟨_, if_pos (decide_eq_true hfinite)⟩

/-- The ceiling of a number of `r` units. -/
theorem ceil?_of_units {x : Binary64} (hfinite : x.isFinite = true) (hsign : x.negative = false)
    {e r p : Nat} (hx : x.magnitude = (e + 1022) * binade + r) (hunit : 2 ^ 52 ≤ r)
    (hcarry : r ≤ 2 ^ 53) (hlow : p * 2 ^ (52 - e) < r * 2 ^ (e - 52))
    (hhigh : r * 2 ^ (e - 52) ≤ (p + 1) * 2 ^ (52 - e)) : x.ceil? = some ((p : Int) + 1) := by
  have hbinade : binade = 2 ^ 52 := rfl
  rcases Nat.lt_or_eq_of_le hcarry with hsmall | hlarge
  · have hparts : x.magnitude = (e + 1022 + 1) * binade + (r - binade) := by
      rw [hx, hbinade]
      omega
    obtain ⟨hs, he⟩ := significand_exponent hparts (by rw [hbinade]; omega)
    refine ceil?_of_bounds hfinite hsign (a := e - 52) ?_ ?_ hlow hhigh
    · rw [hs, hbinade, Nat.sub_add_cancel hunit]
    · omega
  · -- the carry makes the significand one binade smaller and the exponent one larger
    have hparts : x.magnitude = (e + 1023 + 1) * binade + 0 := by
      rw [hx, hlarge, hbinade]
      omega
    obtain ⟨hs, he⟩ := significand_exponent hparts (by rw [hbinade]; omega)
    refine ceil?_of_bounds hfinite hsign (a := e - 52 + 1) ?_ ?_ hlow hhigh
    · rw [hs, hbinade, hlarge, Nat.pow_succ]
      ring
    · omega

section Kept

variable {num den p e : Nat}

theorem ceil?_roundRatio (hden : 0 < den) (hlog : floorLog num den = e) (hle : den * 2 ^ e ≤ num)
    (hlt : num < den * 2 ^ (e + 1)) (hfinite : roundRatio num den < infinity)
    (hlow : p * 2 ^ (52 - e) < roundedUnits num den e * 2 ^ (e - 52))
    (hhigh : roundedUnits num den e * 2 ^ (e - 52) ≤ (p + 1) * 2 ^ (52 - e)) :
    ceil? { negative := false, magnitude := roundRatio num den } = some ((p : Int) + 1) := by
  have h : den ≤ num := (Nat.le_mul_of_pos_right den (Nat.two_pow_pos e)).trans hle
  obtain ⟨hunit, hcarry⟩ := roundedUnits_bounds hden hle hlt
  refine ceil?_of_units (decide_eq_true hfinite) rfl ?_ hunit hcarry hlow hhigh
  show roundRatio num den = _
  rw [roundRatio_eq hden h hlog] at hfinite ⊢
  exact Nat.min_eq_left ((min_lt_iff.1 hfinite).resolve_right (Nat.lt_irrefl _)).le

/-- Every positive number has an integer right below it. -/
theorem below_bounds (hden : 0 < den) (h : 0 < num) (hp : (num - 1) / den = p) :
    p * den < num ∧ num ≤ (p + 1) * den := by
  have hlow : p * den ≤ num - 1 := hp ▸ Nat.div_mul_le_self _ _
  have hhigh : num - 1 < (p + 1) * den := by
    rw [← Nat.div_lt_iff_lt_mul hden, hp]
    exact Nat.lt_succ_self p
  omega

/-- In units of at most one, the part above an integer is not rounded away if it is more than
half a unit, or half of one above an odd number of units. -/
theorem lt_roundedUnits_iff {rest k : Nat} (hden : 0 < den) (hnum : num = p * den + rest) :
    p * 2 ^ k < roundHalfEven (num * 2 ^ k) den ↔
      den < 2 * rest * 2 ^ k ∨ den = 2 * rest * 2 ^ k ∧ p * 2 ^ k % 2 = 1 := by
  have hscaled : 2 * (num * 2 ^ k) = 2 * (p * 2 ^ k) * den + 2 * rest * 2 ^ k := by
    rw [hnum]
    ring
  have hhalf : (2 * (p * 2 ^ k) + 1) * den = 2 * (p * 2 ^ k) * den + den := by ring
  rw [← Nat.not_le, roundHalfEven_le_iff hden, hscaled, hhalf]
  omega

/-- In units larger than one, the ceiling is the nearest multiple of the unit if it is one at
all, because the quotient is less than one below it. -/
theorem roundedUnits_eq_iff {j : Nat} (hden : 0 < den) (hj : 0 < j) (hlow : p * den < num)
    (hhigh : num ≤ (p + 1) * den) :
    roundHalfEven num (den * 2 ^ j) * 2 ^ j = p + 1 ↔ 2 ^ j ∣ p + 1 := by
  constructor
  · intro h
    exact ⟨_, h.symm.trans (Nat.mul_comm _ _)⟩
  · rintro ⟨m, hm⟩
    have hunit : 0 < den * 2 ^ j := Nat.mul_pos hden (Nat.two_pow_pos j)
    have hwhole : m * (den * 2 ^ j) = (p + 1) * den := by
      rw [hm]
      ring
    have hle : roundHalfEven num (den * 2 ^ j) ≤ m := roundHalfEven_le hunit (hwhole ▸ hhigh)
    have hge : m ≤ roundHalfEven num (den * 2 ^ j) := by
      obtain ⟨i, rfl⟩ : ∃ i, j = i + 1 := ⟨j - 1, by omega⟩
      cases m with
      | zero => exact Nat.zero_le _
      | succ m =>
        have htwo := Nat.le_mul_of_pos_right (2 * den) (Nat.two_pow_pos i)
        have hdouble : den * 2 ^ (i + 1) = 2 * den * 2 ^ i := by ring
        have hhalf : (2 * m + 1) * (den * 2 ^ (i + 1)) + den * 2 ^ (i + 1) =
            2 * ((p + 1) * den) := by
          rw [← hwhole]
          ring
        have hnext : (p + 1) * den = p * den + den := Nat.succ_mul p den
        rw [Nat.succ_le_iff, ← Nat.not_le, roundHalfEven_le_iff hunit]
        omega
    rw [Nat.le_antisymm hle hge, hm, Nat.mul_comm]

/-- Whether the ceiling of a quotient is also that of the number to which it is rounded. -/
def CeilingKept (num den : Nat) : Prop :=
  let e := (num / den).log2
  let below := (num - 1) / den
  2 ^ (e - 52) ∣ below + 1 ∧
    (e ≤ 52 → den < 2 * (num - below * den) * 2 ^ (52 - e) ∨
      den = 2 * (num - below * den) * 2 ^ (52 - e) ∧ below * 2 ^ (52 - e) % 2 = 1)

theorem ceilingKept_iff (hden : 0 < den) (hle : den * 2 ^ e ≤ num)
    (hlt : num < den * 2 ^ (e + 1)) (hp : (num - 1) / den = p) :
    CeilingKept num den ↔ p * 2 ^ (52 - e) < roundedUnits num den e * 2 ^ (e - 52) ∧
      roundedUnits num den e * 2 ^ (e - 52) ≤ (p + 1) * 2 ^ (52 - e) := by
  have hnum : 0 < num := (Nat.mul_pos hden (Nat.two_pow_pos e)).trans_le hle
  obtain ⟨hlow, hhigh⟩ := below_bounds hden hnum hp
  rw [CeilingKept, log2_eq_of_bounds hden hle hlt, hp]
  by_cases he : e ≤ 52
  · have hrest : num = p * den + (num - p * den) := by omega
    have hzero : e - 52 = 0 := by omega
    have hbelow : roundHalfEven (num * 2 ^ (52 - e)) den ≤ (p + 1) * 2 ^ (52 - e) := by
      refine roundHalfEven_le hden ?_
      calc num * 2 ^ (52 - e) ≤ (p + 1) * den * 2 ^ (52 - e) := Nat.mul_le_mul_right _ hhigh
        _ = (p + 1) * 2 ^ (52 - e) * den := by ring
    rw [roundedUnits, hzero, Nat.pow_zero, Nat.mul_one, Nat.mul_one,
      lt_roundedUnits_iff hden hrest, and_iff_left hbelow, and_iff_right (Nat.one_dvd _)]
    exact ⟨fun h => h he, fun h _ => h⟩
  · have hzero : 52 - e = 0 := by omega
    rw [roundedUnits, hzero, Nat.pow_zero, Nat.mul_one, Nat.mul_one, Nat.mul_one,
      and_iff_left fun h => absurd h he, ← roundedUnits_eq_iff hden (by omega) hlow hhigh]
    omega

/-- The ceiling of a rounded quotient is that of the quotient exactly if it is kept in rounding
and the quotient is not too large for a number. -/
theorem ceil?_roundRatio_eq_iff (hden : 0 < den) (h : den ≤ num) (hp : (num - 1) / den = p) :
    ceil? { negative := false, magnitude := roundRatio num den } = some ((p : Int) + 1) ↔
      num < den * overflow ∧ CeilingKept num den := by
  obtain ⟨e, hlog, hle, hlt⟩ := floorLog_bounds hden h
  rw [← roundRatio_lt_infinity_iff hden h, ceilingKept_iff hden hle hlt hp]
  constructor
  · intro hceil
    have hfinite : roundRatio num den < infinity := exists_ceil?_iff.1 ⟨_, hceil⟩
    have hunits : 0 < roundedUnits num den e * 2 ^ (e - 52) := by
      have hunit := (roundedUnits_bounds hden hle hlt).1
      exact Nat.mul_pos (by omega) (Nat.two_pow_pos _)
    obtain ⟨hlow, hhigh⟩ := below_bounds (Nat.two_pow_pos (52 - e)) hunits rfl
    have hceil' := ceil?_roundRatio hden hlog hle hlt hfinite hlow hhigh
    have heq := Option.some.inj (hceil'.symm.trans hceil)
    refine ⟨hfinite, ?_⟩
    obtain rfl : (roundedUnits num den e * 2 ^ (e - 52) - 1) / 2 ^ (52 - e) = p := by omega
    exact ⟨hlow, hhigh⟩
  · rintro ⟨hfinite, hlow, hhigh⟩
    exact ceil?_roundRatio hden hlog hle hlt hfinite hlow hhigh

end Kept

/-! ### Quotients of integers -/

section Integers

variable {a b : Int}

theorem ofQuotient_eq (hb : 0 < b) (h : b ≤ a) :
    ofQuotient a b = { negative := false, magnitude := roundRatio a.toNat b.toNat } := by
  have hsign : (decide (a < 0) != decide (b < 0)) = false := by
    rw [decide_eq_false (by omega), decide_eq_false (by omega)]
    rfl
  have ha' : a.natAbs = a.toNat := by omega
  have hb' : b.natAbs = b.toNat := by omega
  rw [ofQuotient, hsign, ha', hb']

theorem ceil?_ofQuotient_eq_iff (hb : 0 < b) (h : b ≤ a) :
    (ofQuotient a b).ceil? = some ((a - 1) / b + 1) ↔
      a.toNat < b.toNat * overflow ∧ CeilingKept a.toNat b.toNat := by
  obtain ⟨num, rfl⟩ := Int.eq_ofNat_of_zero_le (by omega : 0 ≤ a)
  obtain ⟨den, rfl⟩ := Int.eq_ofNat_of_zero_le (by omega : 0 ≤ b)
  have hbelow : ((num : Int) - 1) / den = ((num - 1) / den : Nat) := by
    rw [Int.natCast_ediv, Int.natCast_sub (by omega)]
    rfl
  rw [ofQuotient_eq hb h, hbelow]
  exact ceil?_roundRatio_eq_iff (by omega) (by omega) rfl

end Integers

/-! ### Quotients of integers up to 2 ^ 53 -/

/-- The part of a quotient above an integer is more than half a unit, unless the quotient is so
large that it has no such part. -/
theorem lt_two_mul_rest {num den p d e k : Nat} (hnum : num = p * den + d) (hpos : 0 < d)
    (hd : d ≤ den) (hle : den * 2 ^ e ≤ num) (hmax : num ≤ 2 ^ (e + k + 1)) :
    den < 2 * (d * 2 ^ k) := by
  have hden : den ≤ 2 * 2 ^ k := by
    refine Nat.le_of_mul_le_mul_right ?_ (Nat.two_pow_pos e)
    calc den * 2 ^ e ≤ 2 ^ (e + k + 1) := hle.trans hmax
      _ = 2 * 2 ^ k * 2 ^ e := by ring
  rcases Nat.lt_or_eq_of_le hden with hlt | heq
  · have hscaled : 2 ^ k ≤ d * 2 ^ k := Nat.le_mul_of_pos_left _ hpos
    omega
  · -- the quotient is a power of two, and the whole last unit is left
    have hexact : num = 2 ^ e * den := by
      have htop : den * 2 ^ e = 2 ^ (e + k + 1) := by
        rw [heq]
        ring
      rw [Nat.mul_comm]
      omega
    have hp : p < 2 ^ e := Nat.lt_of_mul_lt_mul_right (a := den) (by omega)
    have hp' : 2 ^ e ≤ p + 1 := by
      refine Nat.le_of_mul_le_mul_right (c := den) ?_ (by omega)
      rw [Nat.succ_mul]
      omega
    have hwhole : d = den := by
      have hpe : 2 ^ e = p + 1 := by omega
      rw [hpe, Nat.succ_mul] at hexact
      omega
    have hscaled : den ≤ den * 2 ^ k := Nat.le_mul_of_pos_right _ (Nat.two_pow_pos k)
    rw [hwhole]
    omega

theorem ceilingKept_of_le {num den : Nat} (hden : 0 < den) (h : den ≤ num) (hmax : num ≤ 2 ^ 53) :
    CeilingKept num den := by
  obtain ⟨e, -, hle, hlt⟩ := floorLog_bounds hden h
  obtain ⟨hlow, hhigh⟩ := below_bounds hden (by omega : 0 < num) rfl
  rw [CeilingKept, log2_eq_of_bounds hden hle hlt]
  by_cases he : e ≤ 52
  · have hzero : e - 52 = 0 := by omega
    have hexponent : e + (52 - e) + 1 = 53 := by omega
    rw [Nat.succ_mul] at hhigh
    rw [hzero]
    refine ⟨Nat.one_dvd _, fun _ => .inl ?_⟩
    rw [Nat.mul_assoc]
    refine lt_two_mul_rest (p := (num - 1) / den) (by omega) (by omega) (by omega) hle ?_
    rwa [hexponent]
  · -- only the quotient of the largest number and one is left
    have hpow : 2 ^ 53 ≤ 2 ^ e := Nat.pow_le_pow_right (by decide) (by omega)
    have hden' : den = 1 := by
      by_contra hne
      have htwo : 2 * 2 ^ 53 ≤ den * 2 ^ e := Nat.mul_le_mul (by omega) hpow
      omega
    subst hden'
    obtain rfl : num = 2 ^ 53 := by omega
    have he' : e = 53 := by
      by_contra hne
      have htwo : 2 ^ 54 ≤ 2 ^ e := Nat.pow_le_pow_right (by decide) (by omega)
      omega
    subst he'
    exact ⟨by decide, fun h => absurd h he⟩

theorem lt_overflow : 2 ^ 53 < overflow := by
  obtain ⟨s, hs⟩ : ∃ s, s = 970 := ⟨_, rfl⟩
  rw [overflow, ← hs]
  exact Nat.lt_of_lt_of_le (by decide)
    (Nat.le_mul_of_pos_right (2 ^ 54 - 1) (Nat.two_pow_pos s))

/-- The ceiling of a quotient of integers up to `2 ^ 53` is exact. -/
theorem ceil?_ofQuotient {a b : Int} (hb : 0 < b) (h : b ≤ a) (ha : a ≤ 2 ^ 53) :
    (ofQuotient a b).ceil? = some ((a - 1) / b + 1) := by
  have hnum : a.toNat ≤ 2 ^ 53 := by omega
  have hfinite : a.toNat < b.toNat * overflow :=
    (hnum.trans_lt lt_overflow).trans_le (Nat.le_mul_of_pos_left overflow (by omega))
  exact (ceil?_ofQuotient_eq_iff hb h).2
    ⟨hfinite, ceilingKept_of_le (by omega) (by omega) hnum⟩

end Binary64
end QueryCriteria
