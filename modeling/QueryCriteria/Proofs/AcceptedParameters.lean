import QueryCriteria.Proofs.Comparison
import QueryCriteria.Proofs.ExpressionGrammar
import QueryCriteria.Proofs.Faults

/-!
Which parameters are comparisons.  The text of a parameter has to be a key alone or a key with
a test, and the operand of an equality has to be more than commas.  Such a parameter is a
comparison of the field that its key names, provided that its operand can be typed.
-/
namespace QueryCriteria

namespace Switches

theorem coerce_nil (s : Switches) : s.coerce "" = .ok (.str "") := by
  obtain ⟨regexes, booleans, dates, numbers⟩ := s
  cases regexes <;> cases booleans <;> cases dates <;> cases numbers <;> rfl

end Switches

namespace TokenList

/-- Commas alone hold no token. -/
theorem split_eq_nil_iff {cs : List Char} : split cs = [] ↔ ∀ c ∈ cs, c = ',' := by
  fun_induction split cs with
  | case1 => simp
  | case2 cs ih => simp [ih]
  | case3 c cs h => simp [h]

/-- An exclamation mark by itself is a token. -/
theorem standalone_mark : Standalone ['!'] := by
  refine ⟨List.cons_ne_nil _ _, by simp, fun rest hr => ?_⟩
  cases rest with
  | nil => rfl
  | cons c cs =>
    obtain rfl : c = ',' := hr c rfl
    rfl

theorem split_mark : split ['!'] = [['!']] := split_of_standalone standalone_mark

end TokenList

namespace Comparison

open Expression (Chosen StartsWith HasTestShape IsKey)

/-- The texts in an operand that are typed. -/
def parts (operand : List Char) : Relation → List (List Char)
  | .equal | .notEqual => TokenList.split operand
  | .order _ => [operand]
  | .custom _ => Text.splitOn ',' operand

def IsTyped (switches : Switches) (operand : List Char) (relation : Relation) : Prop :=
  ∀ part ∈ parts operand relation, ∃ token, switches.token (String.ofList part) = .ok token

variable {switches : Switches} {operand : List Char} {relation : Relation}

/-! ### Tests -/

theorem exists_tokens_iff :
    (∃ tokens, TokenList.tokens switches (String.ofList operand) = .ok tokens) ↔
      ∀ part ∈ TokenList.split operand, ∃ token, switches.token (String.ofList part) = .ok token := by
  rw [TokenList.tokens, String.toList_ofList]
  exact Fallible.exists_mapM_ok_iff

/-- A test can be read if every text in its operand can be typed. -/
theorem exists_ofTest_iff :
    (∃ found, ofTest switches operand relation = .ok found) ↔
      IsTyped switches operand relation := by
  cases relation with
  | equal =>
    by_cases hmark : operand = ['!']
    · subst hmark
      constructor
      · intro _ part hpart
        rw [parts, TokenList.split_mark] at hpart
        rw [List.mem_singleton.1 hpart]
        exact ⟨_, congrArg (Except.map _) (Switches.coerce_nil switches)⟩
      · intro _
        exact ⟨some (single .is (.bool false)), rfl⟩
    · rw [ofTest, if_neg hmark, Fallible.exists_map_ok_iff]
      exact exists_tokens_iff
  | notEqual =>
    rw [ofTest, Fallible.exists_map_ok_iff]
    exact exists_tokens_iff
  | order op =>
    rw [ofTest, Fallible.exists_map_ok_iff, IsTyped, parts]
    simp only [List.mem_singleton, forall_eq]
  | custom name =>
    rw [ofTest, Fallible.exists_map_ok_iff]
    exact Fallible.exists_mapM_ok_iff

theorem equality?_eq_none_iff {negate : Bool} {tokens : List Token} :
    equality? negate tokens = none ↔ tokens = [] := by
  match tokens with
  | [] => exact ⟨fun _ => rfl, fun _ => rfl⟩
  | [token] => exact ⟨nofun, nofun⟩
  | first :: second :: tokens => exact ⟨nofun, nofun⟩

theorem tokens_eq_nil_iff :
    TokenList.tokens switches (String.ofList operand) = .ok [] ↔ ∀ c ∈ operand, c = ',' := by
  rw [TokenList.tokens, String.toList_ofList, ← TokenList.split_eq_nil_iff]
  cases TokenList.split operand with
  | nil => exact ⟨fun _ => rfl, fun _ => rfl⟩
  | cons piece pieces =>
    constructor
    · intro h
      rw [List.mapM_cons] at h
      obtain ⟨token, -, hrest⟩ := Fallible.bind_eq_ok_iff.1 h
      obtain ⟨tokens, -, hcons⟩ := Fallible.map_eq_ok_iff.1 hrest
      cases hcons
    · intro h
      cases h

theorem map_equality?_eq_none_iff {negate : Bool} :
    (TokenList.tokens switches (String.ofList operand)).map (equality? negate) = .ok none ↔
      ∀ c ∈ operand, c = ',' := by
  rw [Fallible.map_eq_ok_iff]
  constructor
  · intro h
    obtain ⟨tokens, htokens, hnone⟩ := h
    rw [equality?_eq_none_iff.1 hnone] at htokens
    exact tokens_eq_nil_iff.1 htokens
  · intro h
    exact ⟨[], tokens_eq_nil_iff.2 h, rfl⟩

/-- Only an equality can demand nothing, and only if there is nothing between its commas. -/
theorem ofTest_eq_none_iff :
    ofTest switches operand relation = .ok none ↔
      (relation = .equal ∨ relation = .notEqual) ∧ ∀ c ∈ operand, c = ',' := by
  cases relation with
  | equal =>
    by_cases hmark : operand = ['!']
    · subst hmark
      simp [ofTest]
    · rw [ofTest, if_neg hmark, map_equality?_eq_none_iff]
      simp
  | notEqual =>
    rw [ofTest, map_equality?_eq_none_iff]
    simp
  | order op =>
    rw [ofTest, Fallible.map_eq_ok_iff]
    simp
  | custom name =>
    rw [ofTest, Fallible.map_eq_ok_iff]
    simp

/-! ### Parameters -/

/-- A text that is a comparison: a key, and after it nothing or a test whose operand, for an
equality, is not made of commas alone. -/
structure Accepted (text key rest : List Char) : Prop extends StartsWith text key rest where
  shape : rest = [] ∨ HasTestShape rest
  valued : ∀ relation operand, Chosen rest relation operand →
    relation = .equal ∨ relation = .notEqual → ∃ c ∈ operand, c ≠ ','

/-- A key without the exclamation mark in front of it. -/
def unmarked : List Char → List Char
  | '!' :: field => field
  | field => field

theorem field_existence (key : List Char) :
    (existence key).field = String.ofList (unmarked key) := by
  unfold existence
  split
  · rfl
  · next hmark => rw [unmarked.eq_2 key hmark]

variable {key value : String} {k rest : List Char}

theorem parse_of_key (h : StartsWith (parameterText key.toList value.toList) k []) :
    parse switches key value = .ok (some (existence k)) := by
  rw [parse, Expression.read?_of_key h]
  rfl

theorem parse_of_chosen (h : StartsWith (parameterText key.toList value.toList) k rest)
    (ht : Chosen rest relation operand) :
    parse switches key value = (ofTest switches operand relation).map fun found =>
      found.map fun demanded => { field := String.ofList k, value := demanded } := by
  rw [parse, Expression.read?_of_chosen h ht]
  rfl

/-- A value makes a test of the text after the key. -/
theorem parse_of_readTest? (switches : Switches) {key value : List Char} (hkey : IsKey key)
    (hne : value ≠ []) (h : Expression.readTest? ('=' :: value) = some (relation, operand)) :
    parse switches (String.ofList key) (String.ofList value) =
      (ofTest switches operand relation).map fun found =>
        found.map fun demanded => { field := String.ofList key, value := demanded } := by
  refine parse_of_chosen ?_ (Expression.chosen_of_readTest? h)
  rw [String.toList_ofList, String.toList_ofList, parameterText, if_neg hne]
  refine ⟨hkey, rfl, fun c hc => ?_⟩
  rw [← Option.some.inj hc]
  decide

/-- What is no expression is no comparison. -/
theorem parse_of_not_accepted
    (h : ¬∃ k rest, Accepted (parameterText key.toList value.toList) k rest) :
    parse switches key value = .ok none := by
  cases hread : Expression.read? (parameterText key.toList value.toList) with
  | none => rw [parse, hread]
  | some e =>
    obtain ⟨rest, hstart, ⟨rfl, -⟩ | ⟨relation, operand, -, hchosen⟩⟩ :=
      Expression.cases_of_read? hread
    · refine absurd ⟨_, [], hstart, .inl rfl, fun relation operand hchosen => ?_⟩ h
      cases Expression.readTest?_eq_some_iff.2 hchosen
    · rw [parse_of_chosen hstart hchosen, ofTest_eq_none_iff.2]
      · rfl
      · by_contra hvalued
        apply h
        refine ⟨_, rest, hstart, .inr hchosen.hasTestShape, fun other operand' hother heq => ?_⟩
        obtain ⟨rfl, rfl⟩ := hchosen.unique hother
        by_contra hnone
        apply hvalued
        refine ⟨heq, fun c hc => ?_⟩
        by_contra hne
        exact hnone ⟨c, hc, hne⟩

theorem parse_of_accepted (h : Accepted (parameterText key.toList value.toList) k rest) :
    parse switches key value ≠ .ok none ∧
      ((∃ c, parse switches key value = .ok (some c)) ↔
        ∀ relation operand, Chosen rest relation operand → IsTyped switches operand relation) ∧
      ∀ c, parse switches key value = .ok (some c) →
        c.field = String.ofList (if rest = [] then unmarked k else k) := by
  obtain ⟨hstart, hshape, hvalued⟩ := h
  by_cases hnil : rest = []
  · subst hnil
    have hparse : parse switches key value = _ := parse_of_key hstart
    rw [hparse]
    refine ⟨nofun, ⟨?_, fun _ => ⟨_, rfl⟩⟩, ?_⟩
    · intro _ relation operand hchosen
      cases Expression.readTest?_eq_some_iff.2 hchosen
    · intro c hc
      rw [← Option.some.inj (Except.ok.inj hc), if_pos rfl, field_existence]
  · obtain ⟨relation, operand, hchosen⟩ := Expression.exists_chosen (hshape.resolve_left hnil)
    have htyped : (∀ relation operand, Chosen rest relation operand →
        IsTyped switches operand relation) ↔ IsTyped switches operand relation := by
      constructor
      · intro h
        exact h relation operand hchosen
      · intro h other operand' hother
        obtain ⟨rfl, rfl⟩ := hchosen.unique hother
        exact h
    have hsome : ofTest switches operand relation ≠ .ok none := by
      intro hnone
      obtain ⟨hequality, hcommas⟩ := ofTest_eq_none_iff.1 hnone
      obtain ⟨c, hc, hne⟩ := hvalued relation operand hchosen hequality
      exact hne (hcommas c hc)
    rw [parse_of_chosen hstart hchosen, htyped, ← exists_ofTest_iff, if_neg hnil]
    cases hfound : ofTest switches operand relation with
    | error fault => exact ⟨nofun, ⟨nofun, nofun⟩, nofun⟩
    | ok found =>
      cases found with
      | none => exact absurd hfound hsome
      | some demanded =>
        refine ⟨nofun, ⟨fun _ => ⟨_, rfl⟩, fun _ => ⟨_, rfl⟩⟩, fun c hc => ?_⟩
        rw [← Option.some.inj (Except.ok.inj hc)]

/-- The parameters that are comparisons are the accepted ones whose operand can be typed, and
their field is the key, or the key without its exclamation mark where there is no test.  All
others that can be read are none, and what cannot be read has a pattern that cannot be compiled
between two slashes of its text. -/
theorem parse_accepts_grammar (switches : Switches) (key value : String) :
    (parse switches key value = .ok none ↔
      ¬∃ k rest, Accepted (parameterText key.toList value.toList) k rest) ∧
    ((∃ c, parse switches key value = .ok (some c)) ↔
      ∃ k rest, Accepted (parameterText key.toList value.toList) k rest ∧
        ∀ relation operand, Chosen rest relation operand → IsTyped switches operand relation) ∧
    (∀ c, parse switches key value = .ok (some c) →
      ∀ k rest, StartsWith (parameterText key.toList value.toList) k rest →
        c.field = String.ofList (if rest = [] then unmarked k else k)) ∧
    ∀ fault, parse switches key value = .error fault →
      Regex.FaultIn (parameterText key.toList value.toList) fault := by
  by_cases h : ∃ k rest, Accepted (parameterText key.toList value.toList) k rest
  · obtain ⟨k, rest, hk⟩ := h
    obtain ⟨hnone, hsome, hfield⟩ : parse switches key value ≠ .ok none ∧ _ := parse_of_accepted hk
    refine ⟨iff_of_false hnone (not_not_intro ⟨k, rest, hk⟩), ?_, ?_, fun fault => faultIn_of_parse⟩
    · constructor
      · intro hparse
        exact ⟨k, rest, hk, hsome.1 hparse⟩
      · intro hother
        obtain ⟨k', rest', hk', htyped⟩ := hother
        obtain ⟨rfl, rfl⟩ := hk.toStartsWith.unique hk'.toStartsWith
        exact hsome.2 htyped
    · intro c hc k' rest' hstart
      obtain ⟨rfl, rfl⟩ := hk.toStartsWith.unique hstart
      exact hfield c hc
  · have hparse : parse switches key value = .ok none := parse_of_not_accepted h
    rw [hparse]
    refine ⟨iff_of_true rfl h, ?_, ?_, ?_⟩
    · constructor
      · intro hsome
        obtain ⟨c, hc⟩ := hsome
        cases hc
      · intro hother
        obtain ⟨k, rest, hk, -⟩ := hother
        exact absurd ⟨k, rest, hk⟩ h
    · intro c hc
      cases hc
    · intro fault hfault
      cases hfault

/-- An exclamation mark stays with a key that has a test, and goes where there is none. -/
theorem parse_accepts_marked_key :
    (∃ c, parse {} "!a" ">=b,c" = .ok (some c) ∧ c.field = "!a") ∧
      ∃ c, parse {} "!a" "" = .ok (some c) ∧ c.field = "a" := by
  have hkey : IsKey ['!', 'a'] :=
    .marked ⟨List.cons_ne_nil _ _, by simp [Expression.isSpecial]⟩
  constructor
  · refine ⟨_, rfl, ?_⟩
    exact (parse_accepts_grammar {} "!a" ">=b,c").2.2.1 _ rfl ['!', 'a'] ('=' :: ">=b,c".toList)
      ⟨hkey, rfl, by simp [Expression.isSpecial]⟩
  · refine ⟨_, rfl, ?_⟩
    exact (parse_accepts_grammar {} "!a" "").2.2.1 _ rfl ['!', 'a'] [] ⟨hkey, rfl, by simp⟩

/-- A pattern that looks behind too far is an accepted operand but cannot be typed. -/
theorem accepted_look_behind_unread :
    ¬((∃ c, parse {} "a>" "/(?<=a{2147483648})b/" = .ok (some c)) ↔
      ∃ k rest, Accepted
        (parameterText "a>".toList "/(?<=a{2147483648})b/".toList) k rest) := by
  have hfault : parse {} "a>" "/(?<=a{2147483648})b/" = .error .lookBehindTooWide := rfl
  intro h
  by_cases haccepted : ∃ k rest, Accepted
      (parameterText "a>".toList "/(?<=a{2147483648})b/".toList) k rest
  · obtain ⟨c, hc⟩ := h.2 haccepted
    rw [hfault] at hc
    cases hc
  · have hnone : parse {} "a>" "/(?<=a{2147483648})b/" = .ok none :=
      parse_of_not_accepted haccepted
    rw [hfault] at hnone
    cases hnone

end Comparison
end QueryCriteria
