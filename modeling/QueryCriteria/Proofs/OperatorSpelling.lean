import QueryCriteria.Proofs.AcceptedParameters
import QueryCriteria.Proofs.TypedLiteral

/-!
How operators are written.  An operator means the same at the end of a key and at the start of
a value, because an equals sign in front of it is spared.  A client's own operator ends at the
last equals sign that leaves an operand, so that it keeps its name as long as no value has an
equals sign with something after it.
-/
namespace QueryCriteria

namespace Expression

variable {sign operand : List Char} {relation : Relation}

theorem IsSign.exists_special (h : IsSign relation sign) :
    ∃ c cs, sign = c :: cs ∧ isSpecial c = true ∧ (relation ≠ .equal → c ≠ '=') := by
  cases h with
  | equal => exact ⟨_, _, rfl, by decide, fun hne => absurd rfl hne⟩
  | more | atLeast | less | atMost | notEqual | custom =>
    exact ⟨_, _, rfl, by decide, fun _ => by decide⟩

/-- An equals sign in front of a relation that starts with another character is spared. -/
theorem exists_chosen_spared (h : IsSign relation sign) (hrelation : relation ≠ .equal)
    (hoperand : operand ≠ []) :
    ∃ other operand', Chosen (sign ++ operand) other operand' ∧
      Chosen ('=' :: (sign ++ operand)) other operand' := by
  obtain ⟨⟨other, operand'⟩, htest⟩ := exists_readRelation? ⟨h, hoperand, rfl⟩
  obtain ⟨c, cs, rfl, -, hc⟩ := h.exists_special
  refine ⟨other, operand', chosen_of_readTest? ?_, chosen_of_readTest? ?_⟩
  · rw [readTest?.eq_2, htest]
    intro tail htail
    exact hc hrelation (List.cons.inj htail).1
  · rw [readTest?, htest]

end Expression

namespace Comparison

open Expression (Chosen StartsWith IsKey IsSign IsField)

variable {switches : Switches}

/-- An operator means the same in the key and in the value: either way it is the operator that
the text after the field is read with. -/
theorem operator_in_value_eq_in_key (switches : Switches) {field sign value : String}
    {relation : Relation} (hfield : IsKey field.toList) (hsign : IsSign relation sign.toList)
    (hrelation : relation ≠ .equal) (hvalue : value ≠ "") :
    parse switches field (sign ++ value) = parse switches (field ++ sign ++ value) "" ∧
      ∃ other operand, Chosen (sign ++ value).toList other operand ∧
        parse switches field (sign ++ value) =
          (ofTest switches operand other).map fun found =>
            found.map fun demanded => { field, value := demanded } := by
  have hne : value.toList ≠ [] := by
    rw [ne_eq, String.toList_eq_nil_iff]
    exact hvalue
  obtain ⟨other, operand, hkey, hspared⟩ :=
    Expression.exists_chosen_spared hsign hrelation hne
  rw [← String.toList_append] at hkey hspared
  obtain ⟨c, cs, hcons, hspecial, -⟩ := hsign.exists_special
  have hin : StartsWith (parameterText field.toList (sign ++ value).toList) field.toList
      ('=' :: (sign ++ value).toList) := by
    refine ⟨hfield, ?_, fun d hd => ?_⟩
    · rw [parameterText, if_neg]
      rw [String.toList_append, hcons]
      exact List.cons_ne_nil _ _
    · rw [← Option.some.inj hd]
      decide
  have hout : StartsWith (parameterText (field ++ sign ++ value).toList "".toList) field.toList
      (sign ++ value).toList := by
    refine ⟨hfield, ?_, fun d hd => ?_⟩
    · rw [String.toList_append, String.toList_append, String.toList_append, List.append_assoc]
      rfl
    · rw [String.toList_append, hcons] at hd
      rw [← Option.some.inj hd]
      exact hspecial
  have hparse : parse switches field (sign ++ value) = _ := parse_of_chosen hin hspared
  rw [String.ofList_toList] at hparse
  refine ⟨?_, other, operand, hkey, hparse⟩
  rw [hparse, parse_of_chosen hout hkey, String.ofList_toList]

/-- A value that starts with an equals sign and holds another operator. -/
theorem operator_in_value_before_equals :
    let demanded : Value := single .gt (.str "=")
    parse {} "!a" ">=" = .ok (some { field := "!a", value := demanded }) ∧
      parse {} "!a" ">=" = parse {} "!a>=" "" ∧
      parse {} "a" ":n==:m=5" = parse {} "a:n==:m=5" "" := by
  have hplain : IsField ['a'] := ⟨List.cons_ne_nil _ _, by simp [Expression.isSpecial]⟩
  refine ⟨rfl, ?_, ?_⟩
  · have hfield : IsKey "!a".toList := .marked hplain
    have hsign : IsSign (.order .gt) ">".toList := .more
    have hvalue : "=" ≠ "" := by decide
    exact (operator_in_value_eq_in_key {} hfield hsign (by decide) hvalue).1
  · have hfield : IsKey "a".toList := .bare hplain
    have hsign : IsSign (.custom ['n']) ":n=".toList := .custom (List.cons_ne_nil _ _)
    have hvalue : "=:m=5" ≠ "" := by decide
    exact (operator_in_value_eq_in_key {} hfield hsign (by decide) hvalue).1

/-! ### A client's own operators -/

/-- A single value stands for itself. -/
def collapsed : List Value → Value
  | [value] => value
  | values => .list values

theorem custom_eq_collapsed (name : List Char) (values : List Value) :
    custom name (values.map fun value => { negated := false, value }) =
      .map [(.custom (String.ofList name), collapsed values)] := by
  match values with
  | [] => rfl
  | [value] => rfl
  | first :: second :: values => simp [custom, collapsed, Function.comp_def]

section Custom

variable {field name joined before last : List Char}

/-- The name of the operator goes up to the last equals sign that leaves an operand. -/
theorem parse_of_cut (hfield : IsField field) (hjoined : joined ≠ []) (hbefore : before ≠ [])
    (hcut : Expression.cutLast? (name ++ '=' :: joined) = some (before, last)) :
    parse switches (String.ofList (field ++ ':' :: name)) (String.ofList joined) =
      ((Text.splitOn ',' last).mapM fun part => switches.token (String.ofList part)).map
        fun tokens => some { field := String.ofList field, value := custom before tokens } := by
  have hchosen : Chosen (':' :: (name ++ '=' :: joined)) (Relation.custom before) last := by
    apply Expression.chosen_of_readTest?
    rw [Expression.readTest?.eq_2 _ (by simp), Expression.readRelation?, hcut]
    exact if_neg hbefore
  have hstart : StartsWith
      (parameterText (String.ofList (field ++ ':' :: name)).toList (String.ofList joined).toList)
      field (':' :: (name ++ '=' :: joined)) := by
    refine ⟨.bare hfield, ?_, fun d hd => ?_⟩
    · rw [String.toList_ofList, String.toList_ofList, parameterText, if_neg hjoined,
        List.append_assoc, List.cons_append]
    · rw [← Option.some.inj hd]
      decide
  rw [parse_of_chosen hstart hchosen, ofTest]
  cases (Text.splitOn ',' last).mapM fun part => switches.token (String.ofList part) <;> rfl

/-- Values without an exclamation mark in front are typed as they are. -/
theorem mapM_token {values : List (List Char)} (h : ∀ v ∈ values, ∀ c ∈ v.head?, c ≠ '!') :
    (values.mapM fun v => switches.token (String.ofList v)) =
      (values.mapM fun v => switches.coerce (String.ofList v)).map
        (List.map fun value => { negated := false, value }) := by
  rw [← Fallible.mapM_map]
  exact Fallible.mapM_congr fun v hv => Switches.token_unmarked (h v hv)

/-- A field, a client's own operator and its values, as a parameter. -/
def parseOwn (switches : Switches) (field name : List Char) (values : List (List Char)) :
    Except Fault (Option Comparison) :=
  parse switches (String.ofList (field ++ ':' :: name)) (String.ofList (Text.joinWith ',' values))

/-- The comparison with the name and the values as they are given. -/
def ownOperator (switches : Switches) (field name : List Char) (values : List (List Char)) :
    Except Fault (Option Comparison) :=
  (values.mapM fun v => switches.coerce (String.ofList v)).map fun typed => some
    { field := String.ofList field
      value := .map [(.custom (String.ofList name), collapsed typed)] }

variable {values : List (List Char)}

theorem parseOwn_of_not_mem (hfield : IsField field) (hname : name ≠ []) (hvalues : values ≠ [])
    (hcomma : ∀ v ∈ values, ',' ∉ v) (hmark : ∀ v ∈ values, ∀ c ∈ v.head?, c ≠ '!')
    (hjoined : Text.joinWith ',' values ≠ []) (hequals : '=' ∉ (Text.joinWith ',' values).dropLast) :
    parseOwn switches field name values = ownOperator switches field name values := by
  rw [parseOwn, parse_of_cut hfield hjoined hname
      (Expression.cutLast?_of_not_mem name hjoined hequals),
    Text.splitOn_joinWith hvalues hcomma, mapM_token hmark, ownOperator]
  cases values.mapM fun v => switches.coerce (String.ofList v) with
  | error fault => rfl
  | ok typed =>
    show Except.ok (some (Comparison.mk _ (custom name _))) = _
    rw [custom_eq_collapsed]
    rfl

theorem parseOwn_of_last_equals (hfield : IsField field) (hname : name ≠ [])
    (hjoin : Text.joinWith ',' values = before ++ '=' :: last) (hlast : last ≠ [])
    (hequals : '=' ∉ last.dropLast) :
    parseOwn switches field name values =
      ((Text.splitOn ',' last).mapM fun part => switches.token (String.ofList part)).map
        fun tokens => some
          { field := String.ofList field, value := custom (name ++ '=' :: before) tokens } := by
  have hjoined : Text.joinWith ',' values ≠ [] := by
    rw [hjoin]
    exact List.append_ne_nil_of_right_ne_nil _ (List.cons_ne_nil _ _)
  have hcut := Expression.cutLast?_of_not_mem (name ++ '=' :: before) hlast hequals
  rw [List.append_assoc, List.cons_append, ← hjoin] at hcut
  exact parse_of_cut hfield hjoined (List.append_ne_nil_of_left_ne_nil hname _) hcut

/-- A client's own operator keeps its name and its values exactly if no equals sign stands in
the values, but for one at their very end.  Otherwise the name takes in everything up to the
last equals sign that leaves an operand. -/
theorem own_operator_kept_iff (switches : Switches) (hfield : IsField field) (hname : name ≠ [])
    (hvalues : values ≠ []) (hcomma : ∀ v ∈ values, ',' ∉ v)
    (hmark : ∀ v ∈ values, ∀ c ∈ v.head?, c ≠ '!') (hjoined : Text.joinWith ',' values ≠ []) :
    ('=' ∉ (Text.joinWith ',' values).dropLast →
      parseOwn switches field name values = ownOperator switches field name values) ∧
    (∀ before last, Text.joinWith ',' values = before ++ '=' :: last → last ≠ [] →
      '=' ∉ last.dropLast → parseOwn switches field name values =
        ((Text.splitOn ',' last).mapM fun part => switches.token (String.ofList part)).map
          fun tokens => some
            { field := String.ofList field, value := custom (name ++ '=' :: before) tokens }) ∧
    ∀ c, ownOperator switches field name values = .ok (some c) →
      (parseOwn switches field name values = .ok (some c) ↔
        '=' ∉ (Text.joinWith ',' values).dropLast) := by
  refine ⟨parseOwn_of_not_mem hfield hname hvalues hcomma hmark hjoined,
    fun before last => parseOwn_of_last_equals hfield hname, fun c hc => ?_⟩
  constructor
  · intro hparse hequals
    obtain ⟨before, last, hjoin, hlast, hlater⟩ := Expression.exists_last_equals hequals
    rw [parseOwn_of_last_equals hfield hname hjoin hlast hlater] at hparse
    obtain ⟨typed, -, hmeant⟩ := Fallible.map_eq_ok_iff.1 hc
    obtain ⟨tokens, -, hread⟩ := Fallible.map_eq_ok_iff.1 hparse
    have hvalue := congrArg Comparison.value (Option.some.inj (hread.trans hmeant.symm))
    obtain ⟨hentry, -⟩ := List.cons.inj (Value.map.inj hvalue)
    have hnames := String.ofList_injective (Key.custom.inj (Prod.mk.inj hentry).1)
    have hlength := congrArg List.length hnames
    rw [List.length_append, List.length_cons] at hlength
    omega
  · intro hequals
    rw [parseOwn_of_not_mem hfield hname hvalues hcomma hmark hjoined hequals, hc]

/-- Two values, and an equals sign at the very end. -/
theorem own_operator_kept_two_values :
    parseOwn {} ['f'] ['n', '>'] [['1', '0'], ['b', '=']] =
      .ok (some { field := "f"
                  value := .map [(.custom "n>", .list [.int 10, .str "b="])] }) := by
  have hvalues : [['1', '0'], ['b', '=']] ≠ [] := List.cons_ne_nil _ _
  have hfield : IsField ['f'] := ⟨List.cons_ne_nil _ _, by simp [Expression.isSpecial]⟩
  exact ((own_operator_kept_iff {} hfield (List.cons_ne_nil _ _) hvalues (by simp) (by simp)
    (by decide)).2.2 _ rfl).2 (by decide)

/-- An equals sign within a value ends the name of the operator. -/
theorem equals_in_value_taken_into_name :
    parseOwn {} ['f'] ['n'] [['a', '=', 'b']] =
        .ok (some { field := "f", value := .map [(.custom "n=a", .str "b")] }) ∧
      parseOwn {} ['f'] ['n'] [['a', '=', 'b']] ≠
        ownOperator {} ['f'] ['n'] [['a', '=', 'b']] := by
  have hread : parseOwn {} ['f'] ['n'] [['a', '=', 'b']] =
      .ok (some { field := "f", value := .map [(.custom "n=a", .str "b")] }) := rfl
  have hmeant : ownOperator {} ['f'] ['n'] [['a', '=', 'b']] =
      .ok (some { field := "f", value := .map [(.custom "n", .str "a=b")] }) := rfl
  refine ⟨hread, fun heq => ?_⟩
  rw [hread, hmeant] at heq
  have hvalue := congrArg Comparison.value (Option.some.inj (Except.ok.inj heq))
  obtain ⟨hentry, -⟩ := List.cons.inj (Value.map.inj hvalue)
  exact absurd (Key.custom.inj (Prod.mk.inj hentry).1) (by decide)

end Custom

end Comparison
end QueryCriteria
