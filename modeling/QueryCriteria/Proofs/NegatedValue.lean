import QueryCriteria.Proofs.AcceptedParameters
import QueryCriteria.Proofs.TypedValue
import Mathlib.Data.List.Basic

/-!
Two ways to ask for anything but a value.  The exclamation mark stands in front of the value,
where typing takes it off, or it is part of the operator `!=`.  They mean the same for a value
that is one token, unless the value itself starts with an exclamation mark, of which typing takes
off only one, or goes on after an equals sign, which then makes the operator `!=` in the value too.
-/
namespace QueryCriteria

namespace TokenList

/-- A quoted text or a regular expression does not end in a comma. -/
theorem exists_last_of_spanDelimited? {cs literal rest : List Char}
    (h : spanDelimited? cs = some (literal, rest)) :
    ∃ before last, literal = before ++ [last] ∧ last ≠ ',' := by
  cases cs with
  | nil => cases h
  | cons c cs =>
    rw [spanDelimited?] at h
    split at h
    · next hquote =>
      obtain ⟨⟨inner, after⟩, -, hfound⟩ := Option.map_eq_some_iff.1 h
      refine ⟨c :: inner, c, (Prod.mk.inj hfound).1.symm, ?_⟩
      rcases hquote with rfl | rfl <;> decide
    · split at h
      · next hslash =>
        subst hslash
        obtain ⟨⟨inner, after⟩, -, hfound⟩ := Option.map_eq_some_iff.1 h
        have hliteral : '/' :: (inner ++ '/' :: (spanFlag after).1) = literal :=
          (Prod.mk.inj hfound).1
        rw [← hliteral]
        unfold spanFlag
        split
        · exact ⟨'/' :: (inner ++ ['/']), 'i', by simp, by decide⟩
        · exact ⟨'/' :: inner, '/', rfl, by decide⟩
      · cases h

/-- A regular expression that is a whole text has no second pattern after one of its
characters, unless that character escapes the slash. -/
theorem not_faultAt_of_spanDelimited? {cs before after : List Char} {c : Char} {fault : Fault}
    (h : spanDelimited? ('/' :: cs) = some ('/' :: cs, [])) (hcs : cs = before ++ c :: after)
    (hc : c ≠ '\\') : ¬Regex.FaultAt after fault := by
  intro hfault
  obtain ⟨pattern, -, ⟨more, hafter⟩, -⟩ := hfault
  rw [spanDelimited?, if_neg (by decide), if_pos rfl] at h
  obtain ⟨⟨inner, rest⟩, hspan, hfound⟩ := Option.map_eq_some_iff.1 h
  have hslash : '/' ≠ '\\' := by decide
  obtain ⟨inner', rest', hspan', hsuffix⟩ :=
    Literal.suffix_of_spanTo? hslash hc before (pattern ++ ['/'] ++ more)
  have htext : before ++ c :: '/' :: (pattern ++ ['/'] ++ more) = cs := by
    rw [hcs, ← hafter]
    rfl
  rw [htext, hspan] at hspan'
  obtain ⟨-, rfl⟩ := Prod.mk.inj (Option.some.inj hspan')
  -- only the flag is left after the slash that closes the expression
  have hflag : (spanFlag rest).1 = rest := by
    have happend := append_spanFlag rest
    rwa [(Prod.mk.inj hfound).2, List.append_nil] at happend
  have hmem : '/' ∈ (spanFlag rest).1 := by
    rw [hflag]
    exact hsuffix.subset (by simp)
  unfold spanFlag at hmem
  split at hmem
  · exact absurd (List.mem_singleton.1 hmem) (by decide)
  · cases hmem

end TokenList

namespace Comparison

open Expression (Chosen StartsWith IsField)
open TokenList (spanDelimited?)

variable {switches : Switches} {value : List Char}

/-! ### One token -/

theorem tokens_of_split (h : TokenList.split value = [value]) :
    TokenList.tokens switches (String.ofList value) =
      (switches.token (String.ofList value)).map ([·]) := by
  rw [TokenList.tokens, String.toList_ofList, h, List.mapM_cons]
  cases switches.token (String.ofList value) <;> rfl

/-- A negated value, however its negation was written. -/
def negated (switches : Switches) (value : List Char) : Except Fault (Option Value) :=
  (switches.coerce (String.ofList value)).map fun v => some (negation v)

theorem ofTest_equal_marked (hne : value ≠ [])
    (h : TokenList.split ('!' :: value) = ['!' :: value]) :
    ofTest switches ('!' :: value) .equal = negated switches value := by
  have hmark : '!' :: value ≠ ['!'] := fun heq => hne (List.cons.inj heq).2
  rw [ofTest, if_neg hmark, tokens_of_split h, Switches.token_marked, negated]
  cases switches.coerce (String.ofList value) <;> rfl

/-- The exclamation mark of the value is taken off although the operator negates as well. -/
theorem ofTest_notEqual_marked (h : TokenList.split ('!' :: value) = ['!' :: value]) :
    ofTest switches ('!' :: value) .notEqual = negated switches value := by
  rw [ofTest, tokens_of_split h, Switches.token_marked, negated]
  cases switches.coerce (String.ofList value) <;> rfl

theorem ofTest_notEqual_unmarked (h : TokenList.split value = [value])
    (hmark : ∀ c ∈ value.head?, c ≠ '!') :
    ofTest switches value .notEqual = negated switches value := by
  rw [ofTest, tokens_of_split h, Switches.token_unmarked hmark, negated]
  cases switches.coerce (String.ofList value) <;> rfl

/-- A text that starts like an operator is negated as it is. -/
theorem negated_of_mark {c : Char} (hc : c = '!' ∨ c = '=') (value : List Char) :
    negated switches (c :: value) =
      .ok (some (single .ne (.str (String.ofList (c :: value))))) := by
  rw [negated, Switches.coerce_mark hc]
  rfl

/-! ### Values that are read differently -/

/-- Only the negation of a text is the text that is excluded. -/
theorem eq_str_of_negation {v : Value} {s : String} (h : negation v = single .ne (.str s)) :
    v = .str s := by
  unfold negation at h
  split at h
  · obtain ⟨hentry, -⟩ := List.cons.inj (Value.map.inj h)
    cases (Prod.mk.inj hentry).1
  · obtain ⟨hentry, -⟩ := List.cons.inj (Value.map.inj h)
    exact (Prod.mk.inj hentry).2

/-- No value that is shorter than a text is negated like the text. -/
theorem negation_ne_of_length {part : List Char} {v : Value} (hv : TypedFrom part v)
    (hlength : part.length < value.length) :
    negation v ≠ single .ne (.str (String.ofList value)) := by
  intro h
  rw [eq_str_of_negation h] at hv
  have hle := hv.length_le
  rw [String.toList_ofList] at hle
  omega

theorem exists_negation_eq (v : Value) :
    ∃ op w, negation v = single op w ∧ (op = .ne ∨ op = .not) := by
  unfold negation
  split
  · exact ⟨.not, _, rfl, .inr rfl⟩
  · exact ⟨.ne, _, rfl, .inl rfl⟩

/-- A list of values is not read as the negation of one. -/
theorem membership_ne_negation (tokens : List Token) (v : Value) :
    membership tokens ≠ negation v := by
  obtain ⟨op, w, hnegation, hop⟩ := exists_negation_eq v
  rw [hnegation]
  intro h
  have hentries := Value.map.inj h
  split at hentries <;> split at hentries <;> rcases hop with rfl | rfl <;> simp at hentries

/-- The equals sign of a value is not lost where it belongs to the value. -/
theorem ofTest_equals_ne (h : TokenList.split ('=' :: value) = ['=' :: value]) :
    ofTest switches value .notEqual ≠ ofTest switches ('=' :: value) .notEqual := by
  have hmark : ∀ c ∈ ('=' :: value).head?, c ≠ '!' := by
    intro c hc
    rw [← Option.some.inj hc]
    decide
  rw [ofTest_notEqual_unmarked h hmark, negated_of_mark (.inr rfl)]
  intro heq
  obtain ⟨tokens, htokens, hdemanded⟩ := Fallible.map_eq_ok_iff.1 heq
  match tokens with
  | [] => cases hdemanded
  | [token] =>
    have hnegation : negation token.value = single .ne (.str (String.ofList ('=' :: value))) :=
      Option.some.inj hdemanded
    rw [TokenList.tokens, String.toList_ofList] at htokens
    obtain ⟨part, hpart, htoken⟩ := Fallible.exists_of_mem_mapM htokens List.mem_cons_self
    have htyped := Switches.typedFrom_of_token htoken
    rw [String.toList_ofList] at htyped
    refine negation_ne_of_length htyped ?_ hnegation
    exact Nat.lt_succ_of_le (TokenList.infix_of_mem_split hpart).length_le
  | first :: second :: tokens =>
    obtain ⟨hentry, -⟩ := List.cons.inj (Value.map.inj (Option.some.inj hdemanded))
    cases (Prod.mk.inj hentry).1

/-- Two exclamation marks start no literal. -/
theorem spanLiteral?_marks (cs : List Char) : TokenList.spanLiteral? ('!' :: '!' :: cs) = none := by
  rw [TokenList.spanLiteral?_marked]
  rfl

theorem split_marks_of_not_mem (hcomma : ',' ∉ value) :
    TokenList.split ('!' :: '!' :: value) = ['!' :: '!' :: value] := by
  have hmem : ',' ∉ '!' :: '!' :: value := by
    rw [List.mem_cons, List.mem_cons, not_or, not_or]
    exact ⟨by decide, by decide, hcomma⟩
  have hnone := spanLiteral?_marks value
  rw [← List.append_nil ('!' :: '!' :: value)] at hnone
  have hspan := TokenList.spanToken_of_plain hnone hmem TokenList.closes_nil
  rw [List.append_nil] at hspan
  refine TokenList.split_of_spanToken (List.cons_ne_nil _ _) (fun c hc => ?_) hspan
  rw [← Option.some.inj hc]
  decide

/-- Behind two exclamation marks the first comma separates, also within a literal. -/
theorem two_le_length_split_marks (hcomma : ',' ∈ value)
    (hspan : spanDelimited? value = some (value, [])) :
    2 ≤ (TokenList.split ('!' :: '!' :: value)).length := by
  obtain ⟨before, after, hvalue, hbefore⟩ := List.eq_append_cons_of_mem hcomma
  have htext : '!' :: '!' :: value = '!' :: '!' :: before ++ ',' :: after := by
    rw [hvalue]
    rfl
  have hmem : ',' ∉ '!' :: '!' :: before := by
    rw [List.mem_cons, List.mem_cons, not_or, not_or]
    exact ⟨by decide, by decide, hbefore⟩
  have hnone := spanLiteral?_marks value
  rw [htext] at hnone ⊢
  have htoken := TokenList.spanToken_of_plain hnone hmem (TokenList.closes_comma after)
  rw [List.cons_append, TokenList.split, if_neg (by decide), ← List.cons_append, htoken]
  -- the character that closes the literal is left for another token
  have hafter : TokenList.split after ≠ [] := by
    intro hnil
    obtain ⟨start, last, hliteral, hlast⟩ := TokenList.exists_last_of_spanDelimited? hspan
    have hcommas := TokenList.split_eq_nil_iff.1 hnil
    have hmem : last ∈ ',' :: after := by
      apply List.mem_of_getLast?
      rw [← List.getLast?_append_of_ne_nil before (List.cons_ne_nil _ _), ← hvalue, hliteral,
        List.getLast?_concat]
    rcases List.mem_cons.1 hmem with hmem | hmem
    · exact hlast hmem
    · exact hlast (hcommas last hmem)
  have hlength := List.length_pos_iff.2 hafter
  show 2 ≤ (TokenList.split after).length + 1
  omega

/-- A token after two exclamation marks that meets a fault stands after a comma or another
exclamation mark. -/
theorem exists_later_fault {piece : List Char} {fault : Fault}
    (hpiece : piece ∈ TokenList.split ('!' :: '!' :: value))
    (h : switches.token (String.ofList piece) = .error fault) :
    ∃ before c after, value = before ++ c :: after ∧ (c = ',' ∨ c = '!') ∧
      Regex.FaultAt after fault := by
  have hfault := Switches.faultAt_of_token h
  rw [String.toList_ofList] at hfault
  obtain ⟨before, after, htext, hbefore⟩ := TokenList.exists_append_of_mem_split hpiece
  rcases hbefore with rfl | ⟨earlier, rfl⟩
  · -- the first token starts with both exclamation marks
    rcases hfault with hfault | ⟨rest, rfl, hfault⟩
    · obtain ⟨cs, rfl⟩ := hfault.exists_cons
      cases htext
    · obtain ⟨cs, rfl⟩ := hfault.exists_cons
      cases htext
  · obtain ⟨e, rfl⟩ : ∃ e, earlier = '!' :: '!' :: e := by
      match earlier with
      | [] => cases htext
      | [c] => cases htext
      | c :: d :: e =>
        cases htext
        exact ⟨e, rfl⟩
    have hvalue : value = e ++ ',' :: (piece ++ after) := by
      have htail := (List.cons.inj (List.cons.inj htext).2).2
      rw [← htail]
      simp
    rcases hfault with hfault | ⟨rest, rfl, hfault⟩
    · exact ⟨e, ',', piece ++ after, hvalue, .inl rfl, hfault.mono (List.prefix_append _ _)⟩
    · refine ⟨e ++ [','], '!', rest ++ after, ?_, .inr rfl, hfault.mono (List.prefix_append _ _)⟩
      rw [hvalue]
      simp

/-- A marked token with a comma is a quoted text or a regular expression. -/
theorem spanDelimited?_of_split_marked (h : TokenList.split ('!' :: value) = ['!' :: value])
    (hcomma : ',' ∈ value) : spanDelimited? value = some (value, []) := by
  rcases TokenList.cases_of_split h with hsome | ⟨-, hnone⟩
  · rw [TokenList.spanLiteral?_marked] at hsome
    obtain ⟨⟨literal, rest⟩, hspan, hfound⟩ :=
      Option.map_eq_some_iff.1 (Option.filter_eq_some_iff.1 hsome).1
    obtain ⟨hliteral, rfl⟩ := Prod.mk.inj hfound
    rw [hspan, (List.cons.inj hliteral).2]
  · exact absurd (List.mem_cons_of_mem _ hcomma) hnone

theorem ofTest_marks (switches : Switches) (value : List Char) :
    ofTest switches ('!' :: '!' :: value) .equal =
      ((TokenList.split ('!' :: '!' :: value)).mapM fun part =>
        switches.token (String.ofList part)).map (equality? false) := by
  have hmark : '!' :: '!' :: value ≠ ['!'] := by
    intro heq
    cases heq
  rw [ofTest, if_neg hmark, TokenList.tokens, String.toList_ofList]

/-- A literal with a comma in it is taken apart behind two exclamation marks. -/
theorem ofTest_marks_ne_negation (hcomma : ',' ∈ value)
    (hspan : spanDelimited? value = some (value, [])) (v : Value) :
    ofTest switches ('!' :: '!' :: value) .equal ≠ .ok (some (negation v)) := by
  rw [ofTest_marks]
  intro heq
  obtain ⟨tokens, htokens, hdemanded⟩ := Fallible.map_eq_ok_iff.1 heq
  have hseveral : 2 ≤ tokens.length := by
    rw [Fallible.length_of_mapM htokens]
    exact two_le_length_split_marks hcomma hspan
  rw [equality?_of_several hseveral] at hdemanded
  exact membership_ne_negation tokens v (Option.some.inj hdemanded)

/-- Where a literal cannot be typed, the parts of it are not at fault for the same reason. -/
theorem ofTest_marks_ne_fault (hspan : spanDelimited? value = some (value, [])) {fault : Fault}
    (hcoerce : switches.coerce (String.ofList value) = .error fault) :
    ofTest switches ('!' :: '!' :: value) .equal ≠ .error fault := by
  rw [ofTest_marks]
  intro heq
  obtain ⟨piece, hpiece, herror⟩ :=
    Fallible.exists_of_mapM_error (Fallible.map_eq_error_iff.1 heq)
  obtain ⟨before, c, after, hvalue, hc, hlater⟩ := exists_later_fault hpiece herror
  have hfirst := Switches.faultAt_of_coerce hcoerce
  rw [String.toList_ofList] at hfirst
  obtain ⟨cs, rfl⟩ := hfirst.exists_cons
  cases before with
  | nil =>
    obtain ⟨rfl, -⟩ := List.cons.inj hvalue
    rcases hc with hc | hc <;> cases hc
  | cons d before =>
    have hne : c ≠ '\\' := by
      rcases hc with rfl | rfl <;> decide
    exact TokenList.not_faultAt_of_spanDelimited? hspan (List.cons.inj hvalue).2 hne hlater

/-- Of two exclamation marks one is left of the value, or the value is taken apart. -/
theorem ofTest_marks_ne (h : TokenList.split ('!' :: value) = ['!' :: value]) :
    ofTest switches ('!' :: '!' :: value) .equal ≠ ofTest switches ('!' :: value) .notEqual := by
  rw [ofTest_notEqual_marked h]
  by_cases hcomma : ',' ∈ value
  · have hspan := spanDelimited?_of_split_marked h hcomma
    rw [negated]
    cases hcoerce : switches.coerce (String.ofList value) with
    | ok v => exact ofTest_marks_ne_negation hcomma hspan v
    | error fault => exact ofTest_marks_ne_fault hspan hcoerce
  · rw [ofTest_equal_marked (List.cons_ne_nil _ _) (split_marks_of_not_mem hcomma),
      negated_of_mark (.inl rfl)]
    intro heq
    obtain ⟨v, hv, hnegation⟩ := Fallible.map_eq_ok_iff.1 heq.symm
    have htyped := Switches.typedFrom_of_coerce hv
    rw [String.toList_ofList] at htyped
    exact negation_ne_of_length htyped (Nat.lt_succ_self _) (Option.some.inj hnegation)

/-! ### The two spellings -/

/-- Comparisons of one field are equal if their tests are. -/
theorem map_comparison_inj {field : String} {found other : Except Fault (Option Value)} :
    (found.map fun v => v.map (Comparison.mk field)) =
      (other.map fun v => v.map (Comparison.mk field)) ↔ found = other := by
  refine Fallible.map_inj fun a b h => ?_
  exact Option.map_injective (fun v w hvw => congrArg Comparison.value hvw) h

/-- Where an equals sign is all that the exclamation mark stands before, it is the value. -/
theorem readTest?_mark (hmark : ∀ rest, value = '=' :: rest → rest = []) :
    Expression.readTest? ('=' :: '!' :: value) = some (.equal, '!' :: value) := by
  by_cases hequals : value = ['=']
  · rw [hequals]
    rfl
  · refine Expression.readTest?_equal (List.cons_ne_nil _ _) (Expression.readRelation?_marked ?_)
    intro c hc
    obtain ⟨cs, rfl⟩ : ∃ cs, value = c :: cs := List.head?_eq_some_iff.1 hc
    intro heq
    subst heq
    rw [hmark cs rfl] at hequals
    exact hequals rfl

theorem readTest?_mark_equals (hne : value ≠ []) :
    Expression.readTest? ('=' :: '!' :: '=' :: value) = some (.notEqual, value) := by
  rw [Expression.readTest?, Expression.readRelation?, if_neg hne]

/-- An exclamation mark and the value behind it make the same test as `!=` and the value, under
the same two conditions. -/
theorem exists_test_of_mark (switches : Switches) (h : TokenList.split value = [value]) :
    ∃ relation operand, Expression.readTest? ('=' :: '!' :: value) = some (relation, operand) ∧
      (ofTest switches operand relation = ofTest switches value .notEqual ↔
        (∀ c ∈ value.head?, c ≠ '!') ∧ ∀ rest, value = '=' :: rest → rest = []) := by
  by_cases hequals : ∀ rest, value = '=' :: rest → rest = []
  · refine ⟨.equal, '!' :: value, readTest?_mark hequals, ?_⟩
    by_cases hmark : ∀ c ∈ value.head?, c ≠ '!'
    · have hne := TokenList.ne_nil_of_split h
      rw [ofTest_equal_marked hne (TokenList.split_marked h hmark),
        ofTest_notEqual_unmarked h hmark]
      exact iff_of_true rfl ⟨hmark, hequals⟩
    · obtain ⟨cs, rfl⟩ : ∃ cs, value = '!' :: cs := by
        push Not at hmark
        obtain ⟨c, hc, rfl⟩ := hmark
        exact List.head?_eq_some_iff.1 hc
      exact iff_of_false (ofTest_marks_ne h) fun hboth => hmark hboth.1
  · obtain ⟨rest, rfl, hrest⟩ : ∃ rest, value = '=' :: rest ∧ rest ≠ [] := by
      push Not at hequals
      exact hequals
    refine ⟨.notEqual, rest, readTest?_mark_equals hrest, ?_⟩
    exact iff_of_false (ofTest_equals_ne h) fun hboth => hequals hboth.2

/-- A value that is one token is negated by an exclamation mark as it is by the operator `!=`,
exactly if it does not start with an exclamation mark itself and nothing comes after an equals
sign at its start. -/
theorem mark_negates_iff (switches : Switches) {field value : String}
    (hfield : IsField field.toList) (hvalue : TokenList.split value.toList = [value.toList]) :
    parse switches field ("!" ++ value) = parse switches field ("!=" ++ value) ↔
      (∀ c ∈ value.toList.head?, c ≠ '!') ∧ ∀ rest, value.toList = '=' :: rest → rest = [] := by
  have hmark : String.ofList ('!' :: value.toList) = "!" ++ value := by
    rw [← String.toList_inj]
    simp
  have hoperator : String.ofList ('!' :: '=' :: value.toList) = "!=" ++ value := by
    rw [← String.toList_inj]
    simp
  obtain ⟨relation, operand, htest, hiff⟩ := exists_test_of_mark switches hvalue
  have hin := parse_of_readTest? switches (.bare hfield) (List.cons_ne_nil _ _) htest
  have hout := parse_of_readTest? switches (.bare hfield) (List.cons_ne_nil _ _)
    (readTest?_mark_equals (TokenList.ne_nil_of_split hvalue))
  rw [String.ofList_toList, hmark] at hin
  rw [String.ofList_toList, hoperator] at hout
  rw [hin, hout, map_comparison_inj]
  exact hiff

/-- A quoted text with a comma is one token. -/
theorem mark_negates_quoted :
    parse {} "f" ("!" ++ "'a,b'") = parse {} "f" ("!=" ++ "'a,b'") := by
  have hfield : IsField "f".toList := ⟨List.cons_ne_nil _ _, by simp [Expression.isSpecial]⟩
  have hliteral : TokenList.IsLiteral "'a,b'".toList :=
    TokenList.isLiteral_enquoted (.inr rfl) "a,b".toList
  have hvalue := TokenList.split_of_standalone hliteral.standalone
  exact (mark_negates_iff {} hfield hvalue).2 ⟨by simp, by simp⟩

/-- An exclamation mark and an equals sign at the start of the value are the operator, and of
two exclamation marks typing takes off one. -/
theorem mark_before_equals_or_mark :
    (TokenList.split "=5".toList = ["=5".toList] ∧
      parse {} "f" ("!" ++ "=5") = .ok (some { field := "f", value := single .ne (.int 5) }) ∧
      parse {} "f" ("!=" ++ "=5") =
        .ok (some { field := "f", value := single .ne (.str "=5") }) ∧
      parse {} "f" ("!" ++ "=5") ≠ parse {} "f" ("!=" ++ "=5")) ∧
    TokenList.split "!x".toList = ["!x".toList] ∧
      parse {} "f" ("!" ++ "!x") = .ok (some { field := "f", value := single .ne (.str "!x") }) ∧
      parse {} "f" ("!=" ++ "!x") = .ok (some { field := "f", value := single .ne (.str "x") }) ∧
      parse {} "f" ("!" ++ "!x") ≠ parse {} "f" ("!=" ++ "!x") := by
  have hfield : IsField ['f'] := ⟨List.cons_ne_nil _ _, by simp [Expression.isSpecial]⟩
  have hfive : TokenList.split ['5'] = [['5']] := TokenList.split_of_standalone
    (TokenList.isLiteral_plain (List.cons_ne_nil _ _) (by simp) (by simp)).standalone
  have hequals : TokenList.split ['=', '5'] = [['=', '5']] := TokenList.split_of_standalone
    (TokenList.isLiteral_plain (List.cons_ne_nil _ _) (by simp) (by simp)).standalone
  have hmarked : TokenList.split ['!', 'x'] = [['!', 'x']] := TokenList.split_of_standalone
    (TokenList.isLiteral_plain (List.cons_ne_nil _ _) (by simp) (by simp)).standalone_marked
  have hoperator : parse {} "f" ("!" ++ "=5") =
      .ok (some { field := "f", value := single .ne (.int 5) }) := by
    refine (parse_of_readTest? {} (.bare hfield) (List.cons_ne_nil _ _)
      (readTest?_mark_equals (List.cons_ne_nil '5' []))).trans ?_
    rw [ofTest_notEqual_unmarked hfive (by simp)]
    rfl
  have hvalue : parse {} "f" ("!=" ++ "=5") =
      .ok (some { field := "f", value := single .ne (.str "=5") }) := by
    refine (parse_of_readTest? {} (.bare hfield) (List.cons_ne_nil _ _)
      (readTest?_mark_equals (List.cons_ne_nil '=' ['5']))).trans ?_
    rw [ofTest_notEqual_unmarked hequals (by simp), negated_of_mark (.inr rfl)]
    rfl
  have hkept : parse {} "f" ("!" ++ "!x") =
      .ok (some { field := "f", value := single .ne (.str "!x") }) := by
    have htest : Expression.readTest? ['=', '!', '!', 'x'] = some (.equal, ['!', '!', 'x']) :=
      readTest?_mark (by simp)
    refine (parse_of_readTest? {} (.bare hfield) (List.cons_ne_nil _ _) htest).trans ?_
    rw [ofTest_equal_marked (List.cons_ne_nil _ _) (split_marks_of_not_mem (by simp)),
      negated_of_mark (.inl rfl)]
    rfl
  have htaken : parse {} "f" ("!=" ++ "!x") =
      .ok (some { field := "f", value := single .ne (.str "x") }) := by
    refine (parse_of_readTest? {} (.bare hfield) (List.cons_ne_nil _ _)
      (readTest?_mark_equals (List.cons_ne_nil '!' ['x']))).trans ?_
    rw [ofTest_notEqual_marked hmarked]
    rfl
  refine ⟨⟨hequals, hoperator, hvalue, ?_⟩, hmarked, hkept, htaken, ?_⟩
  · rw [hoperator, hvalue]
    simp [single]
  · rw [hkept, htaken]
    simp [single]

end Comparison
end QueryCriteria
