import QueryCriteria.Proofs.AcceptedParameters
import QueryCriteria.Proofs.FieldTest
import QueryCriteria.Proofs.Selection

/-!
Existence tests that are repeated.  A query string can ask for a field as `a` or `a=`, and for
its absence as `!a` or `a=!`.  Parameters with one name are collapsed into one text with commas
between their values, which is no existence test any more: copies of an empty value leave commas
alone, which nothing is read from, and copies of an exclamation mark are a list of negated empty
texts.  So the test stands exactly if it is made once.
-/
namespace QueryCriteria

/-- The ways to write an existence test: `a`, `!a` and `a=!`. -/
inductive ExistenceForm where
  | plain
  | marked
  | denied
  deriving DecidableEq, Repr

namespace ExistenceForm

/-- What stands before the first equals sign. -/
def name (field : List Char) : ExistenceForm → List Char
  | plain | denied => field
  | marked => '!' :: field

/-- What stands after the first equals sign. -/
def value : ExistenceForm → List Char
  | plain | marked => []
  | denied => ['!']

/-- Whether the field has to exist. -/
def asked : ExistenceForm → Bool
  | plain => true
  | marked | denied => false

/-- The text of a parameter; an equals sign may come after a name without a value. -/
def text (field : List Char) (form : ExistenceForm) (equals : Bool) : List Char :=
  form.name field ++ if equals || form.value ≠ [] then '=' :: form.value else []

/-- Copies of a parameter, each with or without an equals sign that may be left out. -/
def repeatedText (field : List Char) (form : ExistenceForm) (copies : List Bool) : List Char :=
  Text.joinWith '&' (copies.map (form.text field))

/-- The comparison that a number of copies is read as. -/
def joined (field : List Char) (form : ExistenceForm) (n : Nat) : Option Comparison :=
  if n = 1 then
    some { field := String.ofList field, value := Comparison.single .is (.bool form.asked) }
  else
    match form with
    | plain | marked => none
    | denied =>
      some { field := String.ofList field
             value := Comparison.single .notAmong (.list (List.replicate n (.str ""))) }

variable {field : List Char}

/-! ### Reading the query string -/

theorem mem_name (hletters : ∀ c ∈ field, c.isAlpha = true) (form : ExistenceForm) :
    ∀ c ∈ form.name field, c = '!' ∨ c.isAlpha = true := by
  intro c hc
  cases form with
  | plain => exact .inr (hletters c hc)
  | marked =>
    rcases List.mem_cons.1 hc with hmark | hc
    · exact .inl hmark
    · exact .inr (hletters c hc)
  | denied => exact .inr (hletters c hc)

theorem mem_value (form : ExistenceForm) : ∀ c ∈ form.value, c = '!' ∨ c.isAlpha = true := by
  intro c hc
  cases form with
  | plain => cases hc
  | marked => cases hc
  | denied => exact .inl (List.mem_singleton.1 hc)

theorem not_mem_of_letters {cs : List Char} (h : ∀ c ∈ cs, c = '!' ∨ c.isAlpha = true) {d : Char}
    (hmark : d ≠ '!') (hletter : d.isAlpha = false) : d ∉ cs := by
  intro hd
  rcases h d hd with heq | halpha
  · exact hmark heq
  · rw [hletter] at halpha
    cases halpha

theorem decode_of_letters {cs : List Char} (h : ∀ c ∈ cs, c = '!' ∨ c.isAlpha = true) :
    Form.decode cs = cs := by
  refine Form.decode_ascii fun c hc => ⟨?_, ?_, ?_⟩
  · rcases h c hc with rfl | halpha
    · decide
    · exact Form.isAlphanum_lt (by rw [Char.isAlphanum, halpha, Bool.true_or])
  · rintro rfl
    exact not_mem_of_letters h (by decide) (by decide) hc
  · rintro rfl
    exact not_mem_of_letters h (by decide) (by decide) hc

theorem not_mem_text (hletters : ∀ c ∈ field, c.isAlpha = true) (form : ExistenceForm)
    (equals : Bool) {d : Char} (hmark : d ≠ '!') (hequals : d ≠ '=') (hletter : d.isAlpha = false) :
    d ∉ form.text field equals := by
  have hname := not_mem_of_letters (mem_name hletters form) hmark hletter
  have hvalue := not_mem_of_letters (mem_value form) hmark hletter
  rw [text, List.mem_append, not_or]
  refine ⟨hname, ?_⟩
  split
  · rw [List.mem_cons, not_or]
    exact ⟨hequals, hvalue⟩
  · exact List.not_mem_nil

theorem readPair_text (hletters : ∀ c ∈ field, c.isAlpha = true) (form : ExistenceForm)
    (equals : Bool) : Form.readPair (form.text field equals) = (form.name field, form.value) := by
  have hname := decode_of_letters (mem_name hletters form)
  have hvalue := decode_of_letters (mem_value form)
  have hequals := not_mem_of_letters (mem_name hletters form) (by decide : '=' ≠ '!') (by decide)
  rw [text]
  split
  · rw [Form.readPair, Text.cutAt_append hequals]
    show (Form.decode (form.name field), Form.decode form.value) = _
    rw [hname, hvalue]
  · next hnil =>
    have hempty : form.value = [] := by
      rw [Bool.or_eq_true, decide_eq_true_eq, not_or, not_not] at hnil
      exact hnil.2
    rw [List.append_nil, Form.readPair_name hequals, hname, hempty]

theorem name_ne_nil (hne : field ≠ []) (form : ExistenceForm) : form.name field ≠ [] := by
  cases form with
  | plain => exact hne
  | marked => exact List.cons_ne_nil _ _
  | denied => exact hne

/-- All copies make one parameter, with as many values. -/
theorem parse_repeatedText (hne : field ≠ []) (hletters : ∀ c ∈ field, c.isAlpha = true)
    (form : ExistenceForm) {copies : List Bool} (hcopies : copies ≠ []) :
    Flat.parse (repeatedText field form copies) =
      [(Flat.nameOf (form.name field), Flat.held (List.replicate copies.length form.value))] := by
  have hsegments : ∀ s ∈ copies.map (form.text field), s ≠ [] := by
    refine List.forall_mem_map.2 fun equals _ => ?_
    exact List.append_ne_nil_of_left_ne_nil (name_ne_nil hne form) _
  have hampersand : ∀ s ∈ copies.map (form.text field), '&' ∉ s :=
    List.forall_mem_map.2 fun equals _ =>
      not_mem_text hletters form equals (by decide) (by decide) (by decide)
  have hquestion : ∀ s ∈ copies.map (form.text field), '?' ∉ s :=
    List.forall_mem_map.2 fun equals _ =>
      not_mem_text hletters form equals (by decide) (by decide) (by decide)
  have hpairs : (copies.map (form.text field)).map Form.readPair =
      (List.replicate copies.length form.value).map (fun value => (form.name field, value)) ++
        [] := by
    rw [List.append_nil, List.map_replicate, List.map_map, ← List.map_const']
    exact List.map_congr_left fun equals _ => readPair_text hletters form equals
  have hvalues : List.replicate copies.length form.value ≠ [] := by
    rw [ne_eq, List.replicate_eq_nil_iff, List.length_eq_zero_iff]
    exact hcopies
  rw [repeatedText, Flat.parse_joinWith hsegments hampersand hquestion, hpairs,
    Flat.grouped_block List.not_mem_nil, if_neg hvalues]
  rfl

/-! ### Reading the comparison -/

open Comparison (parse)

theorem joinWith_replicate_nil (n : Nat) :
    Text.joinWith ',' (List.replicate (n + 1) []) = List.replicate n ',' := by
  induction n with
  | zero => rfl
  | succ n ih =>
    rw [List.replicate_succ, List.replicate_succ, Text.joinWith, List.nil_append,
      ← List.replicate_succ, ih, List.replicate_succ]

theorem isKey_name (hfield : Expression.IsField field) (form : ExistenceForm) :
    Expression.IsKey (form.name field) := by
  cases form with
  | plain => exact .bare hfield
  | marked => exact .marked hfield
  | denied => exact .bare hfield

/-- A single copy asks what it says. -/
theorem parse_single (hfield : Expression.IsField field) (form : ExistenceForm) :
    parse {} (String.ofList (form.name field)) (String.ofList form.value) =
      .ok (some { field := String.ofList field
                  value := Comparison.single .is (.bool form.asked) }) := by
  cases form with
  | plain => exact FieldTest.parse_present hfield true
  | marked => exact FieldTest.parse_present hfield false
  | denied =>
    have htest : Expression.readTest? ['=', '!'] = some (.equal, ['!']) := rfl
    refine (Comparison.parse_of_readTest? {} (.bare hfield) (List.cons_ne_nil _ _) htest).trans ?_
    rfl

/-- Nothing but commas is compared to nothing. -/
theorem parse_commas {key : List Char} (hkey : Expression.IsKey key) (n : Nat) :
    parse {} (String.ofList key) (String.ofList (List.replicate (n + 1) ',')) = .ok none := by
  have hplain : ∀ c ∈ (List.replicate (n + 1) ',').head?, Expression.isSpecial c = false := by
    intro c hc
    rw [List.eq_of_mem_replicate (List.mem_of_mem_head? hc)]
    decide
  have htest := Expression.readTest?_equal (List.cons_ne_nil ',' (List.replicate n ','))
    (Expression.readRelation?_plain hplain)
  have hnone : Comparison.ofTest {} (List.replicate (n + 1) ',') .equal = .ok none := by
    refine Comparison.ofTest_eq_none_iff.2 ⟨.inl rfl, fun c hc => ?_⟩
    exact List.eq_of_mem_replicate hc
  refine (Comparison.parse_of_readTest? {} hkey (List.cons_ne_nil _ _) htest).trans ?_
  show (Comparison.ofTest {} (List.replicate (n + 1) ',') .equal).map _ = _
  rw [hnone]
  rfl

theorem tokens_marks (n : Nat) :
    TokenList.tokens {} (String.ofList (Text.joinWith ',' (List.replicate n ['!']))) =
      .ok (List.replicate n { negated := true, value := .str "" }) := by
  have hsplit : TokenList.split (Text.joinWith ',' (List.replicate n ['!'])) =
      List.replicate n ['!'] := by
    refine TokenList.split_joinWith fun token htoken => ?_
    rw [List.eq_of_mem_replicate htoken]
    exact TokenList.standalone_mark
  have htokens : ∀ token ∈ List.replicate n ['!'], ({} : Switches).token (String.ofList token) =
      .ok { negated := true, value := .str "" } := by
    intro token htoken
    rw [List.eq_of_mem_replicate htoken]
    exact congrArg (Except.map _) (Switches.coerce_nil {})
  rw [TokenList.tokens, String.toList_ofList, hsplit, Fallible.mapM_ok htokens, List.map_replicate]

theorem membership_replicate {n : Nat} (hn : n ≠ 0) (v : Value) :
    Comparison.membership (List.replicate n { negated := true, value := v }) =
      Comparison.single .notAmong (.list (List.replicate n v)) := by
  simp [Comparison.membership, Comparison.single, hn]

/-- Several exclamation marks are a list of negated empty texts. -/
theorem parse_marks (hfield : Expression.IsField field) (n : Nat) :
    parse {} (String.ofList field)
        (String.ofList (Text.joinWith ',' (List.replicate (n + 2) ['!']))) =
      .ok (some { field := String.ofList field
                  value := Comparison.single .notAmong
                    (.list (List.replicate (n + 2) (.str ""))) }) := by
  have hmarks : Text.joinWith ',' (List.replicate (n + 2) ['!']) =
      '!' :: ',' :: Text.joinWith ',' (List.replicate (n + 1) ['!']) := by
    rw [List.replicate_succ, List.replicate_succ, Text.joinWith]
    rfl
  have htest : Expression.readTest? ('=' :: Text.joinWith ',' (List.replicate (n + 2) ['!'])) =
      some (.equal, Text.joinWith ',' (List.replicate (n + 2) ['!'])) := by
    rw [hmarks]
    refine Expression.readTest?_equal (List.cons_ne_nil _ _) (Expression.readRelation?_marked ?_)
    intro c hc
    rw [← Option.some.inj hc]
    decide
  have hne : Text.joinWith ',' (List.replicate (n + 2) ['!']) ≠ [] := by
    rw [hmarks]
    exact List.cons_ne_nil _ _
  have hmark : Text.joinWith ',' (List.replicate (n + 2) ['!']) ≠ ['!'] := by
    rw [hmarks]
    simp
  have hseveral : 2 ≤
      (List.replicate (n + 2) ({ negated := true, value := .str "" } : Token)).length := by
    rw [List.length_replicate]
    omega
  rw [Comparison.parse_of_readTest? {} (.bare hfield) hne htest,
    Comparison.ofTest_equal hmark (tokens_marks (n + 2)), Comparison.equality?_of_several hseveral,
    membership_replicate (Nat.succ_ne_zero _)]
  rfl

theorem parse_joined (hfield : Expression.IsField field) (form : ExistenceForm) {n : Nat}
    (hn : n ≠ 0) :
    parse {} (String.ofList (form.name field))
        (String.ofList (Text.joinWith ',' (List.replicate n form.value))) =
      .ok (form.joined field n) := by
  match n with
  | 0 => exact absurd rfl hn
  | 1 => exact parse_single hfield form
  | n + 2 =>
    have hseveral : n + 2 ≠ 1 := by omega
    unfold joined
    rw [if_neg hseveral]
    cases form with
    | plain =>
      have hcommas := parse_commas (isKey_name hfield plain) n
      rw [← joinWith_replicate_nil] at hcommas
      exact hcommas
    | marked =>
      have hcommas := parse_commas (isKey_name hfield marked) n
      rw [← joinWith_replicate_nil] at hcommas
      exact hcommas
    | denied => exact parse_marks hfield n

/-! ### What copies come to -/

theorem name_not_keyword (hfree : String.ofList field ∉ ({} : Keywords).names)
    (form : ExistenceForm) : String.ofList (form.name field) ∉ ({} : Keywords).names := by
  cases form with
  | plain => exact hfree
  | marked => exact Selection.not_keyword_of_special List.mem_cons_self (by decide)
  | denied => exact hfree

theorem field_joined {form : ExistenceForm} {n : Nat} :
    ∀ c ∈ form.joined field n, c.field = String.ofList field := by
  intro c hc
  unfold joined at hc
  split at hc
  · rw [← Option.some.inj hc]
  · cases form with
    | plain => cases hc
    | marked => cases hc
    | denied => rw [← Option.some.inj hc]

theorem ofText_repeatedText (hne : field ≠ []) (hletters : ∀ c ∈ field, c.isAlpha = true)
    (hfree : String.ofList field ∉ ({} : Keywords).names) (form : ExistenceForm)
    {copies : List Bool} (hcopies : copies ≠ []) :
    Selection.ofText {} (String.ofList (repeatedText field form copies)) =
      .ok ({ criteria := (form.joined field copies.length).toList.map fun c =>
               (.field c.field, c.value)
             options := {}, query := Flat.parse (repeatedText field form copies), config := {} },
        if (form.joined field copies.length).isNone then
          [.unreadable (Flat.nameOf (form.name field))]
        else []) := by
  have hfield := Expression.isField_of_letters hne hletters
  have hkey := name_not_keyword hfree form
  have hparse := parse_repeatedText hne hletters form hcopies
  have hlength : copies.length ≠ 0 := fun h => hcopies (List.length_eq_zero_iff.1 h)
  refine Selection.ofText_of_criteria (fun name hname hm => ?_) ?_
  · rw [hparse] at hm
    rw [QueryKey.name.inj (List.mem_singleton.1 hm)] at hname
    exact hkey hname
  · rw [hparse]
    refine Query.criteria_of_single (parse_joined hfield form hlength)
      (Selection.mem_ignoredFields_default hkey) fun c hc => ?_
    rw [field_joined c hc]
    exact Selection.mem_ignoredFields_default hfree

/-- Copies of an existence test are the test exactly if there is one of them.  Several copies with
an empty value are dropped with a notice, and several of `a=!` exclude as many empty texts. -/
theorem repeated_existence_kept_iff (hne : field ≠ []) (hletters : ∀ c ∈ field, c.isAlpha = true)
    (hfree : String.ofList field ∉ ({} : Keywords).names) (form : ExistenceForm)
    {copies : List Bool} (hcopies : copies ≠ []) :
    ∃ criteria notices, Selection.ofText {} (String.ofList (repeatedText field form copies)) =
        .ok ({ criteria, options := {}, query := Flat.parse (repeatedText field form copies),
               config := {} }, notices) ∧
      (criteria = [(.field (String.ofList field), Comparison.single .is (.bool form.asked))] ↔
        copies.length = 1) ∧
      (copies.length = 1 → notices = []) ∧
      (copies.length ≠ 1 → form ≠ denied →
        criteria = [] ∧ notices = [.unreadable (Flat.nameOf (form.name field))]) ∧
      (copies.length ≠ 1 → form = denied →
        criteria = [(.field (String.ofList field), Comparison.single .notAmong
          (.list (List.replicate copies.length (.str ""))))] ∧ notices = []) := by
  refine ⟨_, _, ofText_repeatedText hne hletters hfree form hcopies, ?_⟩
  by_cases hone : copies.length = 1
  · have hjoined : form.joined field copies.length = _ := if_pos hone
    rw [hjoined]
    exact ⟨iff_of_true rfl hone, fun _ => rfl, absurd hone, absurd hone⟩
  · have hjoined : form.joined field copies.length = _ := if_neg hone
    rw [hjoined]
    refine ⟨iff_of_false ?_ hone, fun h => absurd h hone, ?_, ?_⟩
    · cases form with
      | plain => exact nofun
      | marked => exact nofun
      | denied =>
        -- an exclusion is no existence test
        intro h
        obtain ⟨-, hvalue⟩ := Prod.mk.inj (List.cons.inj h).1
        obtain ⟨hentry, -⟩ := List.cons.inj (Value.map.inj hvalue)
        cases (Prod.mk.inj hentry).1
    · intro _ hform
      cases form with
      | plain => exact ⟨rfl, rfl⟩
      | marked => exact ⟨rfl, rfl⟩
      | denied => exact absurd rfl hform
    · intro _ hform
      subst hform
      exact ⟨rfl, rfl⟩

/-- A single `a=!` asks for the absence of the field. -/
theorem repeated_existence_kept_once :
    String.ofList (repeatedText ['a'] denied [true]) = "a=!" ∧
    ∃ criteria notices, Selection.ofText {} (String.ofList (repeatedText ['a'] denied [true])) =
        .ok ({ criteria, options := {}, query := Flat.parse (repeatedText ['a'] denied [true]),
               config := {} }, notices) ∧
      criteria = [(.field "a", Comparison.single .is (.bool false))] := by
  refine ⟨by decide, ?_⟩
  have hletters : ∀ c ∈ ['a'], c.isAlpha = true := List.all_eq_true.1 rfl
  obtain ⟨criteria, notices, hselection, hkept, -⟩ := repeated_existence_kept_iff
    (List.cons_ne_nil 'a' []) hletters (by decide) denied (List.cons_ne_nil true [])
  exact ⟨criteria, notices, hselection, hkept.2 rfl⟩

/-- Two copies of `a` ask for nothing, and two of `a=!` exclude two empty texts. -/
theorem repeated_existence_lost :
    String.ofList (repeatedText ['a'] plain [false, false]) = "a&a" ∧
    (∃ criteria notices,
      Selection.ofText {} (String.ofList (repeatedText ['a'] plain [false, false])) =
        .ok ({ criteria, options := {}, config := {},
               query := Flat.parse (repeatedText ['a'] plain [false, false]) }, notices) ∧
      criteria = [] ∧ criteria ≠ [(.field "a", Comparison.single .is (.bool true))] ∧
      notices = [.unreadable (.name "a")]) ∧
    String.ofList (repeatedText ['a'] denied [true, true]) = "a=!&a=!" ∧
    ∃ criteria notices,
      Selection.ofText {} (String.ofList (repeatedText ['a'] denied [true, true])) =
        .ok ({ criteria, options := {}, config := {},
               query := Flat.parse (repeatedText ['a'] denied [true, true]) }, notices) ∧
      criteria = [(.field "a", Comparison.single .notAmong (.list [.str "", .str ""]))] := by
  have hletters : ∀ c ∈ ['a'], c.isAlpha = true := List.all_eq_true.1 rfl
  have hne : ['a'] ≠ [] := List.cons_ne_nil _ _
  have hplain := ofText_repeatedText hne hletters (by decide) plain (List.cons_ne_nil false [false])
  have hdenied := ofText_repeatedText hne hletters (by decide) denied (List.cons_ne_nil true [true])
  exact ⟨by decide, ⟨_, _, hplain, rfl, nofun, rfl⟩, by decide, _, _, hdenied, rfl⟩

end ExistenceForm
end QueryCriteria
