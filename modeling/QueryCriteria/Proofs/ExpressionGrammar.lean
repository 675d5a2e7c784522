import QueryCriteria.Proofs.Expression
import Mathlib.Data.List.TakeWhile

/-!
The grammar of expressions, stated without a reader.  An expression is a key, which is an
optional exclamation mark and a run of characters that no relation starts with, and after it
either nothing or a test.  A test may be read in several ways: an equals sign in front can be
the relation or be spared, an order can take or leave the equals sign after it, and a client's
own operator can end at any equals sign.  The reading that counts spares an equals sign in
front if it can, and then has the longest sign.
-/
namespace QueryCriteria
namespace Expression

/-! ### Signs and readings -/

/-- How the relations are written. -/
inductive IsSign : Relation → List Char → Prop where
  | more : IsSign (.order .gt) ['>']
  | atLeast : IsSign (.order .ge) ['>', '=']
  | less : IsSign (.order .lt) ['<']
  | atMost : IsSign (.order .le) ['<', '=']
  | equal : IsSign .equal ['=']
  | notEqual : IsSign .notEqual ['!', '=']
  | custom {name : List Char} (h : name ≠ []) : IsSign (.custom name) (':' :: (name ++ ['=']))

/-- A text that is a sign and an operand. -/
structure IsSplit (text : List Char) (relation : Relation) (sign operand : List Char) : Prop where
  isSign : IsSign relation sign
  nonempty : operand ≠ []
  covers : sign ++ operand = text

/-- One way to read a test. -/
structure Reading (text : List Char) where
  /-- Whether an equals sign in front counts for nothing. -/
  spared : Bool
  relation : Relation
  sign : List Char
  operand : List Char
  counted : List Char
  covers : (if spared then '=' :: counted else counted) = text
  isSplit : IsSplit counted relation sign operand

/-- The order of preference among readings. -/
def Reading.le {text : List Char} (r s : Reading text) : Prop :=
  r.spared = false ∧ s.spared = true ∨
    r.spared = s.spared ∧ r.sign.length ≤ s.sign.length

/-- The relation and the operand of the reading that is preferred to all others. -/
def Chosen (text : List Char) (relation : Relation) (operand : List Char) : Prop :=
  ∃ r : Reading text, r.relation = relation ∧ r.operand = operand ∧ ∀ s : Reading text, s.le r

variable {text rest sign operand : List Char} {relation : Relation}

theorem IsSign.unique {other : Relation} (h : IsSign relation sign) (h' : IsSign other sign) :
    relation = other := by
  cases h with
  | custom hname =>
    generalize htext : ':' :: (_ ++ ['=']) = text at h'
    cases h' with
    | custom hother =>
      have hnames := List.append_cancel_right (List.tail_eq_of_cons_eq htext)
      rw [hnames]
    | _ => cases htext
  | _ => cases h'; rfl

theorem IsSign.tail_of_ne_colon {c : Char} {cs : List Char} (h : IsSign relation (c :: cs))
    (hc : c ≠ ':') : cs = [] ∨ cs = ['='] := by
  cases h with
  | more | less | equal => exact .inl rfl
  | atLeast | atMost | notEqual => exact .inr rfl
  | custom => exact absurd rfl hc

theorem IsSign.tail_of_equals {cs : List Char} (h : IsSign relation ('=' :: cs)) : cs = [] := by
  cases h
  rfl

theorem IsSign.tail_of_colon {cs : List Char} (h : IsSign relation (':' :: cs)) :
    ∃ name, name ≠ [] ∧ relation = .custom name ∧ cs = name ++ ['='] := by
  cases h with
  | custom hname => exact ⟨_, hname, rfl, rfl⟩

theorem IsSign.ne_nil (h : IsSign relation sign) : sign ≠ [] := by
  cases h <;> exact List.cons_ne_nil _ _

/-! ### The last equals sign with a text after it -/

section Cut

variable {cs before after : List Char}

theorem append_of_cutLast? (h : cutLast? cs = some (before, after)) :
    before ++ '=' :: after = cs ∧ after ≠ [] := by
  induction cs generalizing before with
  | nil => cases h
  | cons c cs ih =>
    rw [cutLast?] at h
    split at h
    · next first last hcut =>
      obtain ⟨rfl, rfl⟩ := Prod.mk.inj (Option.some.inj h)
      obtain ⟨happend, hne⟩ := ih hcut
      exact ⟨congrArg (c :: ·) happend, hne⟩
    · split at h
      · next hc =>
        obtain ⟨rfl, rfl⟩ := Prod.mk.inj (Option.some.inj h)
        exact ⟨by rw [hc.1]; rfl, hc.2⟩
      · cases h

theorem cutLast?_append (h : cutLast? cs = some (before, after)) (first : List Char) :
    cutLast? (first ++ cs) = some (first ++ before, after) := by
  induction first with
  | nil => exact h
  | cons c first ih => rw [List.cons_append, cutLast?, ih, List.cons_append]

theorem exists_cutLast?_equals (h : after ≠ []) : ∃ cut, cutLast? ('=' :: after) = some cut := by
  rw [cutLast?]
  split
  · exact ⟨_, rfl⟩
  · exact ⟨_, if_pos ⟨rfl, h⟩⟩

/-- No cut leaves more before the equals sign. -/
theorem exists_cutLast? (first : List Char) (h : after ≠ []) :
    ∃ before last, cutLast? (first ++ '=' :: after) = some (first ++ before, last) := by
  obtain ⟨⟨before, last⟩, hcut⟩ := exists_cutLast?_equals h
  exact ⟨before, last, cutLast?_append hcut first⟩

theorem exists_last_equals (h : '=' ∈ cs.dropLast) :
    ∃ before last, cs = before ++ '=' :: last ∧ last ≠ [] ∧ '=' ∉ last.dropLast := by
  induction cs with
  | nil => cases h
  | cons c cs ih =>
    cases cs with
    | nil => cases h
    | cons d ds =>
      by_cases hlater : '=' ∈ (d :: ds).dropLast
      · obtain ⟨before, last, hcs, hrest⟩ := ih hlater
        exact ⟨c :: before, last, congrArg (c :: ·) hcs, hrest⟩
      · rw [List.dropLast_cons_cons, List.mem_cons] at h
        have hc : c = '=' := (h.resolve_right hlater).symm
        exact ⟨[], d :: ds, by rw [hc]; rfl, List.cons_ne_nil _ _, hlater⟩

theorem cutLast?_eq_none (h : '=' ∉ cs.dropLast) : cutLast? cs = none := by
  induction cs with
  | nil => rfl
  | cons c cs ih =>
    cases cs with
    | nil =>
      rw [cutLast?, cutLast?]
      exact if_neg fun hc => hc.2 rfl
    | cons d ds =>
      rw [List.dropLast_cons_cons, List.mem_cons, not_or] at h
      rw [cutLast?, ih h.2]
      exact if_neg fun hc => h.1 hc.1.symm

/-- An equals sign at the very end has no text after it. -/
theorem cutLast?_of_not_mem (before : List Char) (hne : after ≠ []) (h : '=' ∉ after.dropLast) :
    cutLast? (before ++ '=' :: after) = some (before, after) := by
  have hlast : cutLast? ('=' :: after) = some ([], after) := by
    rw [cutLast?, cutLast?_eq_none h]
    exact if_pos ⟨rfl, hne⟩
  have hcut := cutLast?_append hlast before
  rwa [List.append_nil] at hcut

end Cut

/-! ### Relations without an equals sign to spare -/

theorem exists_readOrder? (strict weak : Operator) (h : operand ≠ []) :
    ∃ test, readOrder? strict weak operand = some test := by
  unfold readOrder?
  split
  · exact absurd rfl h
  · exact ⟨_, rfl⟩
  · exact ⟨_, rfl⟩
  · exact ⟨_, rfl⟩

/-- A sign and an operand are always some relation. -/
theorem exists_readRelation? (h : IsSplit text relation sign operand) :
    ∃ test, readRelation? text = some test := by
  obtain ⟨hsign, hne, rfl⟩ := h
  cases hsign with
  | more => exact exists_readOrder? .gt .ge hne
  | atLeast => exact exists_readOrder? .gt .ge (List.cons_ne_nil '=' operand)
  | less => exact exists_readOrder? .lt .le hne
  | atMost => exact exists_readOrder? .lt .le (List.cons_ne_nil '=' operand)
  | equal => exact ⟨_, if_neg hne⟩
  | notEqual => exact ⟨_, if_neg hne⟩
  | @custom name hname =>
    obtain ⟨before, last, hcut⟩ := exists_cutLast? name hne
    have htext : ':' :: (name ++ ['=']) ++ operand = ':' :: (name ++ '=' :: operand) := by simp
    rw [htext, readRelation?, hcut]
    exact ⟨_, if_neg (List.append_ne_nil_of_left_ne_nil hname before)⟩

/-- A split whose sign is as long as any. -/
def IsLongest (text : List Char) (relation : Relation) (sign operand : List Char) : Prop :=
  IsSplit text relation sign operand ∧
    ∀ other sign' operand', IsSplit text other sign' operand' → sign'.length ≤ sign.length

/-- After a character that is no colon a sign has at most an equals sign more. -/
theorem IsSplit.length_le {c : Char} {cs sign' operand' : List Char} {other : Relation}
    (h : IsSplit (c :: cs) other sign' operand') (hc : c ≠ ':') :
    sign'.length ≤ 1 ∨ sign'.length = 2 ∧ cs = '=' :: operand' := by
  obtain ⟨hsign, hne, hcovers⟩ := h
  obtain ⟨d, tail, rfl⟩ := List.exists_cons_of_ne_nil hsign.ne_nil
  obtain ⟨rfl, rfl⟩ := List.cons.inj hcovers
  rcases hsign.tail_of_ne_colon hc with rfl | rfl
  · exact .inl (Nat.le_refl 1)
  · exact .inr ⟨rfl, rfl⟩

theorem exists_isLongest_order {c : Char} {cs : List Char} {strict weak : Operator}
    (hc : c ≠ ':') (hstrict : IsSign (.order strict) [c]) (hweak : IsSign (.order weak) [c, '='])
    (h : readOrder? strict weak cs = some (relation, operand)) :
    ∃ sign, IsLongest (c :: cs) relation sign operand := by
  unfold readOrder? at h
  split at h
  · cases h
  · obtain ⟨rfl, rfl⟩ := Prod.mk.inj (Option.some.inj h)
    refine ⟨[c], ⟨hstrict, List.cons_ne_nil _ _, rfl⟩, fun other sign' operand' hsplit => ?_⟩
    rcases hsplit.length_le hc with hlength | ⟨-, hcs⟩
    · exact hlength
    · obtain rfl := (List.cons.inj hcs).2
      exact absurd rfl hsplit.nonempty
  · next hne =>
    obtain ⟨rfl, rfl⟩ := Prod.mk.inj (Option.some.inj h)
    refine ⟨[c, '='], ⟨hweak, fun hnil => hne (by rw [hnil]), rfl⟩,
      fun other sign' operand' hsplit => ?_⟩
    rcases hsplit.length_le hc with hlength | ⟨hlength, -⟩
    · exact Nat.le_succ_of_le hlength
    · exact Nat.le_of_eq hlength
  · next hnil hone hmore =>
    obtain ⟨rfl, rfl⟩ := Prod.mk.inj (Option.some.inj h)
    refine ⟨[c], ⟨hstrict, fun h => hnil h, rfl⟩, fun other sign' operand' hsplit => ?_⟩
    rcases hsplit.length_le hc with hlength | ⟨-, hcs⟩
    · exact hlength
    · exact absurd hcs (hmore operand')

/-- What is read first has the longest sign. -/
theorem exists_isLongest (h : readRelation? text = some (relation, operand)) :
    ∃ sign, IsLongest text relation sign operand := by
  unfold readRelation? at h
  split at h
  · exact exists_isLongest_order (by decide) .more .atLeast h
  · exact exists_isLongest_order (by decide) .less .atMost h
  · split at h
    · cases h
    · next hne =>
      obtain ⟨rfl, rfl⟩ := Prod.mk.inj (Option.some.inj h)
      refine ⟨['!', '='], ⟨.notEqual, hne, rfl⟩, fun other sign' operand' hsplit => ?_⟩
      rcases hsplit.length_le (by decide) with hlength | ⟨hlength, -⟩
      · exact Nat.le_succ_of_le hlength
      · exact Nat.le_of_eq hlength
  · split at h
    · cases h
    · next hne =>
      obtain ⟨rfl, rfl⟩ := Prod.mk.inj (Option.some.inj h)
      refine ⟨['='], ⟨.equal, hne, rfl⟩, fun other sign' operand' hsplit => ?_⟩
      obtain ⟨d, tail, rfl⟩ := List.exists_cons_of_ne_nil hsplit.isSign.ne_nil
      obtain ⟨rfl, -⟩ := List.cons.inj hsplit.covers
      obtain rfl := hsplit.isSign.tail_of_equals
      exact Nat.le_refl 1
  · next cs =>
    split at h
    · next name last hcut =>
      split at h
      · cases h
      · next hname =>
        obtain ⟨rfl, rfl⟩ := Prod.mk.inj (Option.some.inj h)
        obtain ⟨happend, hne⟩ := append_of_cutLast? hcut
        refine ⟨':' :: (name ++ ['=']), ⟨.custom hname, hne, ?_⟩,
          fun other sign' operand' hsplit => ?_⟩
        · rw [← happend]
          simp
        · obtain ⟨d, tail, rfl⟩ := List.exists_cons_of_ne_nil hsplit.isSign.ne_nil
          obtain ⟨rfl, hcovers⟩ := List.cons.inj hsplit.covers
          obtain ⟨shorter, -, -, rfl⟩ := hsplit.isSign.tail_of_colon
          obtain ⟨before, after, hother⟩ := exists_cutLast? shorter hsplit.nonempty
          have hcs : shorter ++ '=' :: operand' = cs := by
            rw [← hcovers]
            simp
          rw [hcs, hcut] at hother
          obtain ⟨rfl, -⟩ := Prod.mk.inj (Option.some.inj hother)
          simp
    · cases h
  · cases h

/-! ### Tests -/

/-- Some reading of a text is preferred to all others if there is any. -/
theorem exists_readTest? (r : Reading text) : ∃ test, readTest? text = some test := by
  obtain ⟨spared, relation, sign, operand, counted, hcovers, hsplit⟩ := r
  obtain ⟨test, htest⟩ := exists_readRelation? hsplit
  cases spared with
  | true =>
    obtain rfl : '=' :: counted = text := hcovers
    exact ⟨test, by rw [readTest?, htest]⟩
  | false =>
    obtain rfl : counted = text := hcovers
    unfold readTest?
    split
    · split
      · exact ⟨_, rfl⟩
      · exact ⟨test, htest⟩
    · exact ⟨test, htest⟩

theorem chosen_of_spared (h : IsLongest text relation sign operand) :
    Chosen ('=' :: text) relation operand := by
  obtain ⟨hsplit, hlongest⟩ := h
  refine ⟨⟨true, relation, sign, operand, text, rfl, hsplit⟩, rfl, rfl, fun s => ?_⟩
  obtain ⟨spared, other, sign', operand', counted, hcovers, hother⟩ := s
  cases spared with
  | false => exact .inl ⟨rfl, rfl⟩
  | true =>
    obtain rfl := (List.cons.inj hcovers).2
    exact .inr ⟨rfl, hlongest _ _ _ hother⟩

/-- An equals sign in front counts if there is no relation after it. -/
theorem chosen_of_counted (h : IsLongest text relation sign operand)
    (hspared : ∀ cs, text = '=' :: cs → readRelation? cs = none) : Chosen text relation operand := by
  obtain ⟨hsplit, hlongest⟩ := h
  refine ⟨⟨false, relation, sign, operand, text, rfl, hsplit⟩, rfl, rfl, fun s => ?_⟩
  obtain ⟨spared, other, sign', operand', counted, hcovers, hother⟩ := s
  cases spared with
  | true =>
    obtain ⟨test, htest⟩ := exists_readRelation? hother
    rw [hspared counted hcovers.symm] at htest
    cases htest
  | false =>
    obtain rfl : counted = text := hcovers
    exact .inr ⟨rfl, hlongest _ _ _ hother⟩

theorem chosen_of_readTest? (h : readTest? text = some (relation, operand)) :
    Chosen text relation operand := by
  unfold readTest? at h
  split at h
  · next cs =>
    split at h
    · next test hrelation =>
      obtain rfl := Option.some.inj h
      obtain ⟨sign, hlongest⟩ := exists_isLongest hrelation
      exact chosen_of_spared hlongest
    · next hnone =>
      obtain ⟨sign, hlongest⟩ := exists_isLongest h
      apply chosen_of_counted hlongest
      intro cs' htext
      rw [← (List.cons.inj htext).2, hnone]
  · next hequals =>
    obtain ⟨sign, hlongest⟩ := exists_isLongest h
    apply chosen_of_counted hlongest
    intro cs htext
    exact absurd htext (hequals cs)

theorem Chosen.unique {other : Relation} {operand' : List Char} (h : Chosen text relation operand)
    (h' : Chosen text other operand') : relation = other ∧ operand = operand' := by
  obtain ⟨⟨spared, _, sign, _, counted, hcovers, hsplit⟩, rfl, rfl, hfirst⟩ := h
  obtain ⟨⟨spared', _, sign', _, counted', hcovers', hsplit'⟩, rfl, rfl, hfirst'⟩ := h'
  have hle := hfirst ⟨spared', _, sign', _, counted', hcovers', hsplit'⟩
  have hge := hfirst' ⟨spared, _, sign, _, counted, hcovers, hsplit⟩
  obtain ⟨rfl, hlength⟩ : spared = spared' ∧ sign.length = sign'.length := by
    rcases hle with ⟨h', h⟩ | ⟨h', hle⟩ <;> rcases hge with ⟨g, g'⟩ | ⟨g, hge⟩
    · rw [h] at g
      cases g
    · rw [h, h'] at g
      cases g
    · rw [g, g'] at h'
      cases h'
    · exact ⟨g, Nat.le_antisymm hge hle⟩
  have hcounted : counted = counted' := by
    cases spared with
    | true => exact (List.cons.inj (hcovers.trans hcovers'.symm)).2
    | false => exact hcovers.trans hcovers'.symm
  obtain ⟨rfl, rfl⟩ := List.append_inj
    ((hsplit.covers.trans hcounted).trans hsplit'.covers.symm) hlength
  exact ⟨hsplit.isSign.unique hsplit'.isSign, rfl⟩

/-- The reader finds the reading that is preferred to all others. -/
theorem readTest?_eq_some_iff :
    readTest? text = some (relation, operand) ↔ Chosen text relation operand := by
  constructor
  · exact chosen_of_readTest?
  · intro h
    obtain ⟨⟨other, operand'⟩, htest⟩ := exists_readTest? h.choose
    obtain ⟨rfl, rfl⟩ := h.unique (chosen_of_readTest? htest)
    exact htest

/-- What a text has to look like for a test: an order sign, an equals sign or `!=` with
something after it, or a colon with an equals sign that leaves a name and an operand. -/
def HasTestShape (text : List Char) : Prop :=
  ((text.head? = some '>' ∨ text.head? = some '<') ∧ 2 ≤ text.length) ∨
    (['!', '='] <+: text ∧ 3 ≤ text.length) ∨
    (text.head? = some '=' ∧ 2 ≤ text.length) ∨
    (text.head? = some ':' ∧ ∃ i, 2 ≤ i ∧ i + 1 < text.length ∧ text[i]? = some '=')

theorem two_le_length_cons {c : Char} {cs : List Char} (h : cs ≠ []) : 2 ≤ (c :: cs).length := by
  have := List.length_pos_iff.2 h
  rw [List.length_cons]
  omega

theorem IsSplit.hasTestShape (h : IsSplit text relation sign operand) : HasTestShape text := by
  obtain ⟨hsign, hne, rfl⟩ := h
  cases hsign with
  | more => exact .inl ⟨.inl rfl, two_le_length_cons hne⟩
  | atLeast => exact .inl ⟨.inl rfl, two_le_length_cons (List.cons_ne_nil '=' operand)⟩
  | less => exact .inl ⟨.inr rfl, two_le_length_cons hne⟩
  | atMost => exact .inl ⟨.inr rfl, two_le_length_cons (List.cons_ne_nil '=' operand)⟩
  | equal => exact .inr (.inr (.inl ⟨rfl, two_le_length_cons hne⟩))
  | notEqual =>
    exact .inr (.inl ⟨List.prefix_append _ _, Nat.succ_le_succ (two_le_length_cons hne)⟩)
  | @custom name hname =>
    have hlong := List.length_pos_iff.2 hname
    have hpos := List.length_pos_iff.2 hne
    refine .inr (.inr (.inr ⟨rfl, name.length + 1, by omega, ?_, ?_⟩))
    · simp only [List.length_append, List.length_cons, List.length_nil]
      omega
    · simp

theorem exists_reading_of_colon {cs : List Char} {i : Nat} (hi : 2 ≤ i)
    (hlength : i + 1 < (':' :: cs).length) (hequals : (':' :: cs)[i]? = some '=') :
    Nonempty (Reading (':' :: cs)) := by
  obtain ⟨j, rfl⟩ : ∃ j, i = j + 1 := ⟨i - 1, by omega⟩
  rw [List.length_cons] at hlength
  rw [List.getElem?_cons_succ] at hequals
  have hj : j < cs.length := by omega
  have hget : cs[j] = '=' := by
    rw [List.getElem?_eq_getElem hj] at hequals
    exact Option.some.inj hequals
  have hname : cs.take j ≠ [] := by
    rw [← List.length_pos_iff, List.length_take]
    omega
  have hoperand : cs.drop (j + 1) ≠ [] := by
    rw [← List.length_pos_iff, List.length_drop]
    omega
  have hcs : cs.take j ++ '=' :: cs.drop (j + 1) = cs := by
    rw [← hget, List.getElem_cons_drop, List.take_append_drop]
  refine ⟨⟨false, _, _, _, _, rfl, .custom hname, hoperand, ?_⟩⟩
  rw [List.cons_append, List.append_assoc, List.singleton_append, hcs]

/-- The texts with that shape are the ones that have a reading. -/
theorem nonempty_reading_iff : Nonempty (Reading text) ↔ HasTestShape text := by
  constructor
  · rintro ⟨spared, relation, sign, operand, counted, hcovers, hsplit⟩
    cases spared with
    | true =>
      obtain rfl : '=' :: counted = text := hcovers
      refine .inr (.inr (.inl ⟨rfl, two_le_length_cons ?_⟩))
      rw [← hsplit.covers]
      exact List.append_ne_nil_of_left_ne_nil hsplit.isSign.ne_nil operand
    | false =>
      obtain rfl : counted = text := hcovers
      exact hsplit.hasTestShape
  · intro h
    have hone : ∀ {c : Char} {relation : Relation}, IsSign relation [c] → text.head? = some c →
        2 ≤ text.length → Nonempty (Reading text) := by
      intro c relation hsign hhead hlength
      obtain ⟨cs, rfl⟩ := List.head?_eq_some_iff.1 hhead
      refine ⟨⟨false, relation, [c], cs, _, rfl, hsign, ?_, rfl⟩⟩
      rintro rfl
      exact absurd hlength (by simp)
    rcases h with ⟨hhead | hhead, hlength⟩ | ⟨⟨cs, rfl⟩, hlength⟩ | ⟨hhead, hlength⟩ |
      ⟨hhead, i, hi, hlength, hequals⟩
    · exact hone .more hhead hlength
    · exact hone .less hhead hlength
    · refine ⟨⟨false, _, _, cs, _, rfl, .notEqual, ?_, rfl⟩⟩
      rintro rfl
      exact absurd hlength (by decide)
    · exact hone .equal hhead hlength
    · obtain ⟨cs, rfl⟩ := List.head?_eq_some_iff.1 hhead
      exact exists_reading_of_colon hi hlength hequals

theorem exists_chosen (h : HasTestShape text) : ∃ relation operand, Chosen text relation operand := by
  obtain ⟨r⟩ := nonempty_reading_iff.2 h
  obtain ⟨⟨relation, operand⟩, htest⟩ := exists_readTest? r
  exact ⟨relation, operand, chosen_of_readTest? htest⟩

theorem Chosen.hasTestShape (h : Chosen text relation operand) : HasTestShape text :=
  nonempty_reading_iff.1 ⟨h.choose⟩

/-! ### Keys -/

/-- A field, optionally with one exclamation mark in front of it. -/
inductive IsKey : List Char → Prop where
  | bare {field : List Char} (h : IsField field) : IsKey field
  | marked {field : List Char} (h : IsField field) : IsKey ('!' :: field)

/-- A text that is a key and a rest, where the key takes in as much as it can. -/
structure StartsWith (text key rest : List Char) : Prop where
  isKey : IsKey key
  covers : key ++ rest = text
  longest : ∀ c ∈ rest.head?, isSpecial c = true

variable {key field : List Char}

theorem spanField?_marked (h : IsField field) (hr : ∀ c ∈ rest.head?, isSpecial c = true) :
    spanField? ('!' :: field ++ rest) = some ('!' :: field, rest) := by
  rw [List.cons_append, spanField?, spanPlain?_field h hr]
  rfl

theorem spanPlain?_eq_some (h : spanPlain? text = some (field, rest)) :
    IsField field ∧ field ++ rest = text ∧ ∀ c ∈ rest.head?, isSpecial c = true := by
  unfold spanPlain? at h
  split at h
  · cases h
  · next hne =>
    obtain ⟨rfl, rfl⟩ := Prod.mk.inj (Option.some.inj h)
    refine ⟨⟨hne, fun c hc => ?_⟩, List.takeWhile_append_dropWhile, fun c hc => ?_⟩
    · have hplain := List.mem_takeWhile_imp hc
      simpa using hplain
    · have hspecial := List.head?_dropWhile_not (!isSpecial ·) text
      rw [hc] at hspecial
      simpa using hspecial

/-- The reader finds the key that a text starts with. -/
theorem spanField?_eq_some_iff : spanField? text = some (key, rest) ↔ StartsWith text key rest := by
  constructor
  · intro h
    unfold spanField? at h
    split at h
    · obtain ⟨⟨field, rest'⟩, hspan, hkey⟩ := Option.map_eq_some_iff.1 h
      obtain ⟨rfl, rfl⟩ := Prod.mk.inj hkey
      obtain ⟨hfield, rfl, hr⟩ := spanPlain?_eq_some hspan
      exact ⟨.marked hfield, rfl, hr⟩
    · obtain ⟨hfield, hcovers, hr⟩ := spanPlain?_eq_some h
      exact ⟨.bare hfield, hcovers, hr⟩
  · rintro ⟨hkey, rfl, hr⟩
    cases hkey with
    | bare hfield => exact spanField?_field hfield hr
    | marked hfield => exact spanField?_marked hfield hr

theorem StartsWith.unique {key' rest' : List Char} (h : StartsWith text key rest)
    (h' : StartsWith text key' rest') : key = key' ∧ rest = rest' := by
  have heq := (spanField?_eq_some_iff.2 h).symm.trans (spanField?_eq_some_iff.2 h')
  exact Prod.mk.inj (Option.some.inj heq)

/-! ### Expressions -/

theorem read?_of_key (h : StartsWith text key []) : read? text = some { field := key, test := none } := by
  rw [read?, spanField?_eq_some_iff.2 h]
  rfl

theorem read?_of_chosen (h : StartsWith text key rest) (ht : Chosen rest relation operand) :
    read? text = some { field := key, test := some (relation, operand) } := by
  have htest := readTest?_eq_some_iff.2 ht
  have hne : rest ≠ [] := by
    rintro rfl
    cases htest
  rw [read?, spanField?_eq_some_iff.2 h]
  show (if rest = [] then _ else (readTest? rest).map _) = _
  rw [if_neg hne, htest]
  rfl

/-- All that an expression can be: a key alone, or a key with a test. -/
theorem cases_of_read? {e : Expression} (h : read? text = some e) :
    ∃ rest, StartsWith text e.field rest ∧
      (rest = [] ∧ e.test = none ∨
        ∃ relation operand, e.test = some (relation, operand) ∧ Chosen rest relation operand) := by
  obtain ⟨⟨key, rest⟩, hspan, h⟩ := Option.bind_eq_some_iff.1 h
  have hstart := spanField?_eq_some_iff.1 hspan
  simp only at h
  split at h
  · next hnil =>
    obtain rfl := Option.some.inj h
    exact ⟨rest, hstart, .inl ⟨hnil, rfl⟩⟩
  · obtain ⟨⟨relation, operand⟩, htest, rfl⟩ := Option.map_eq_some_iff.1 h
    exact ⟨rest, hstart, .inr ⟨relation, operand, rfl, chosen_of_readTest? htest⟩⟩

end Expression
end QueryCriteria
