import QueryCriteria.Expression
import QueryCriteria.Proofs.Segment

/-!
Expressions are read as they are written: a field by itself or with an exclamation mark in
front of it, and a field with a test after it.
-/
namespace QueryCriteria

/-- The signs that compare by order. -/
inductive OrderSign where
  | more
  | atLeast
  | less
  | atMost
  deriving DecidableEq, Repr

namespace OrderSign

def text : OrderSign → List Char
  | more => ['>']
  | atLeast => ['>', '=']
  | less => ['<']
  | atMost => ['<', '=']

def operator : OrderSign → Operator
  | more => .gt
  | atLeast => .ge
  | less => .lt
  | atMost => .le

theorem operator_injective {a b : OrderSign} (h : a.operator = b.operator) : a = b := by
  cases a <;> cases b <;> first | rfl | cases h

end OrderSign

namespace Expression

/-! ### Fields -/

/-- What an expression can name as a field by itself. -/
structure IsField (field : List Char) : Prop where
  nonempty : field ≠ []
  plain : ∀ c ∈ field, isSpecial c = false

theorem isSpecial_of_isAlphanum {c : Char} (h : c.isAlphanum = true) : isSpecial c = false := by
  rw [← Bool.not_eq_true]
  intro hs
  simp only [isSpecial, Bool.or_eq_true, beq_iff_eq] at hs
  rcases hs with (((rfl | rfl) | rfl) | rfl) | rfl <;> exact absurd h (by decide)

variable {field rest operand : List Char}

theorem isField_of_letters (hne : field ≠ []) (hletters : ∀ c ∈ field, c.isAlpha = true) :
    IsField field where
  nonempty := hne
  plain c hc := by
    refine isSpecial_of_isAlphanum ?_
    rw [Char.isAlphanum, hletters c hc, Bool.true_or]

theorem special_of_nil : ∀ c ∈ ([] : List Char).head?, isSpecial c = true := by
  intro c hc
  cases hc

theorem spanPlain?_field (h : IsField field) (hr : ∀ c ∈ rest.head?, isSpecial c = true) :
    spanPlain? (field ++ rest) = some (field, rest) := by
  have hfield : ∀ c ∈ field, (!isSpecial c) = true := by
    intro c hc
    rw [h.plain c hc]
    rfl
  have hrest : ∀ c ∈ rest.head?, (!isSpecial c) = false := by
    intro c hc
    rw [hr c hc]
    rfl
  rw [spanPlain?, Text.takeWhile_run hfield hrest, Text.dropWhile_run hfield hrest,
    if_neg h.nonempty]

theorem spanField?_field (h : IsField field) (hr : ∀ c ∈ rest.head?, isSpecial c = true) :
    spanField? (field ++ rest) = some (field, rest) := by
  have hspan := spanPlain?_field h hr
  obtain ⟨c, cs, rfl⟩ := List.exists_cons_of_ne_nil h.nonempty
  rw [List.cons_append] at hspan ⊢
  rw [spanField?, hspan]
  rintro tail ⟨⟩
  exact absurd (h.plain '!' List.mem_cons_self) (by decide)

theorem read?_field (h : IsField field) : read? field = some { field, test := none } := by
  have hspan := spanField?_field h special_of_nil
  rw [List.append_nil] at hspan
  rw [read?, hspan]
  rfl

theorem read?_marked (h : IsField field) :
    read? ('!' :: field) = some { field := '!' :: field, test := none } := by
  have hspan := spanPlain?_field h special_of_nil
  rw [List.append_nil] at hspan
  rw [read?, spanField?, hspan]
  rfl

theorem read?_test (h : IsField field) (hr : ∀ c ∈ rest.head?, isSpecial c = true)
    {test : Relation × List Char} (ht : readTest? rest = some test) :
    read? (field ++ rest) = some { field, test := some test } := by
  have hne : rest ≠ [] := by
    rintro rfl
    cases ht
  rw [read?, spanField?_field h hr]
  show (if rest = [] then _ else (readTest? rest).map _) = _
  rw [if_neg hne, ht]
  rfl

/-! ### Tests -/

/-- A text that starts like no relation is none. -/
theorem readRelation?_plain (h : ∀ c ∈ operand.head?, isSpecial c = false) :
    readRelation? operand = none := by
  cases operand with
  | nil => rfl
  | cons c cs =>
    have hc : isSpecial c = false := h c rfl
    rw [readRelation?]
    · rintro tail ⟨⟩
      exact absurd hc (by decide)
    · rintro tail ⟨⟩
      exact absurd hc (by decide)
    · rintro tail ⟨⟩
      exact absurd hc (by decide)
    · rintro tail ⟨⟩
      exact absurd hc (by decide)
    · rintro tail ⟨⟩
      exact absurd hc (by decide)

theorem readRelation?_marked (h : ∀ c ∈ operand.head?, c ≠ '=') :
    readRelation? ('!' :: operand) = none := by
  rw [readRelation?]
  · rintro tail ⟨⟩
  · rintro tail ⟨⟩
  · rintro tail ⟨⟩
    exact h '=' rfl rfl
  · rintro tail ⟨⟩
  · rintro tail ⟨⟩

theorem readTest?_equal (hne : operand ≠ []) (h : readRelation? operand = none) :
    readTest? ('=' :: operand) = some (.equal, operand) := by
  rw [readTest?, h]
  show readRelation? ('=' :: operand) = _
  rw [readRelation?, if_neg hne]

theorem readTest?_notEqual (hne : operand ≠ []) :
    readTest? ('!' :: '=' :: operand) = some (.notEqual, operand) := by
  show readRelation? ('!' :: '=' :: operand) = _
  rw [readRelation?, if_neg hne]

theorem readOrder?_strict (strict weak : Operator) (hne : operand ≠ [])
    (h : ∀ c ∈ operand.head?, c ≠ '=') :
    readOrder? strict weak operand = some (.order strict, operand) := by
  obtain ⟨c, cs, rfl⟩ := List.exists_cons_of_ne_nil hne
  have hc : c ≠ '=' := h c rfl
  rw [readOrder?]
  · rintro ⟨⟩
  · rintro ⟨⟩
    exact hc rfl
  · rintro tail ⟨⟩
    exact hc rfl

theorem readOrder?_weak (strict weak : Operator) (hne : operand ≠ []) :
    readOrder? strict weak ('=' :: operand) = some (.order weak, operand) := by
  rw [readOrder?]
  rintro ⟨⟩
  exact hne rfl

theorem readRelation?_order (sign : OrderSign) (hne : operand ≠ [])
    (h : ∀ c ∈ operand.head?, c ≠ '=') :
    readRelation? (sign.text ++ operand) = some (.order sign.operator, operand) := by
  cases sign with
  | more => exact readOrder?_strict .gt .ge hne h
  | atLeast => exact readOrder?_weak .gt .ge hne
  | less => exact readOrder?_strict .lt .le hne h
  | atMost => exact readOrder?_weak .lt .le hne

theorem readTest?_order (sign : OrderSign) (hne : operand ≠ [])
    (h : ∀ c ∈ operand.head?, c ≠ '=') :
    readTest? (sign.text ++ operand) = some (.order sign.operator, operand) := by
  have hrelation := readRelation?_order sign hne h
  cases sign <;> exact hrelation

/-- An equals sign in front of the relation changes nothing. -/
theorem readTest?_equal_order (sign : OrderSign) (hne : operand ≠ [])
    (h : ∀ c ∈ operand.head?, c ≠ '=') :
    readTest? ('=' :: (sign.text ++ operand)) = some (.order sign.operator, operand) := by
  rw [readTest?, readRelation?_order sign hne h]

/-! ### Operands -/

/-- A field and the text after it make up the text. -/
theorem append_of_spanField? {cs : List Char} {found : List Char × List Char}
    (h : spanField? cs = some found) : found.1 ++ found.2 = cs := by
  have hplain : ∀ {cs : List Char} {found : List Char × List Char},
      spanPlain? cs = some found → found.1 ++ found.2 = cs := by
    intro cs found h
    unfold spanPlain? at h
    split at h
    · cases h
    · obtain rfl := Option.some.inj h
      exact List.takeWhile_append_dropWhile
  unfold spanField? at h
  split at h
  · obtain ⟨inner, hs, rfl⟩ := Option.map_eq_some_iff.1 h
    exact congrArg ('!' :: ·) (hplain hs)
  · exact hplain h

theorem suffix_of_cutLast? {cs before after : List Char} (h : cutLast? cs = some (before, after)) :
    after <:+ cs := by
  induction cs generalizing before with
  | nil => cases h
  | cons c cs ih =>
    rw [cutLast?] at h
    split at h
    · next hcut =>
      obtain ⟨-, rfl⟩ := Prod.mk.inj (Option.some.inj h)
      exact (ih hcut).trans (List.suffix_cons c cs)
    · split at h
      · obtain ⟨-, rfl⟩ := Prod.mk.inj (Option.some.inj h)
        exact List.suffix_cons c cs
      · cases h

theorem suffix_of_readOrder? {strict weak : Operator} {cs : List Char} {relation : Relation}
    (h : readOrder? strict weak cs = some (relation, operand)) : operand <:+ cs := by
  unfold readOrder? at h
  split at h
  · cases h
  · obtain ⟨-, rfl⟩ := Prod.mk.inj (Option.some.inj h)
    exact List.suffix_rfl
  · obtain ⟨-, rfl⟩ := Prod.mk.inj (Option.some.inj h)
    exact List.suffix_cons _ _
  · obtain ⟨-, rfl⟩ := Prod.mk.inj (Option.some.inj h)
    exact List.suffix_rfl

theorem suffix_of_readRelation? {cs : List Char} {relation : Relation}
    (h : readRelation? cs = some (relation, operand)) : operand <:+ cs := by
  unfold readRelation? at h
  split at h
  · exact (suffix_of_readOrder? h).trans (List.suffix_cons _ _)
  · exact (suffix_of_readOrder? h).trans (List.suffix_cons _ _)
  · split at h
    · cases h
    · obtain ⟨-, rfl⟩ := Prod.mk.inj (Option.some.inj h)
      exact (List.suffix_cons _ _).trans (List.suffix_cons _ _)
  · split at h
    · cases h
    · obtain ⟨-, rfl⟩ := Prod.mk.inj (Option.some.inj h)
      exact List.suffix_cons _ _
  · split at h
    · next hcut =>
      split at h
      · cases h
      · obtain ⟨-, rfl⟩ := Prod.mk.inj (Option.some.inj h)
        exact (suffix_of_cutLast? hcut).trans (List.suffix_cons _ _)
    · cases h
  · cases h

theorem suffix_of_readTest? {cs : List Char} {relation : Relation}
    (h : readTest? cs = some (relation, operand)) : operand <:+ cs := by
  unfold readTest? at h
  split at h
  · split at h
    · next hrelation =>
      obtain rfl := Option.some.inj h
      exact (suffix_of_readRelation? hrelation).trans (List.suffix_cons _ _)
    · exact suffix_of_readRelation? h
  · exact suffix_of_readRelation? h

/-- The operand of an expression stands at its end. -/
theorem suffix_of_read? {cs : List Char} {e : Expression} {relation : Relation}
    (h : read? cs = some e) (ht : e.test = some (relation, operand)) : operand <:+ cs := by
  obtain ⟨⟨field, rest⟩, hspan, h⟩ := Option.bind_eq_some_iff.1 h
  simp only at h
  split at h
  · obtain rfl := Option.some.inj h
    cases ht
  · obtain ⟨test, htest, rfl⟩ := Option.map_eq_some_iff.1 h
    obtain rfl := Option.some.inj ht
    rw [← append_of_spanField? hspan]
    exact (suffix_of_readTest? htest).trans (List.suffix_append _ _)

end Expression
end QueryCriteria
