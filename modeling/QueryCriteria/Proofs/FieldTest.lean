import Mathlib.Data.List.Basic
import QueryCriteria.Proofs.Comparison
import QueryCriteria.Proofs.Scalar

/-!
What single expressions demand of a field, and how they are written.  The expression of a
test is read as the operators of the test with their operands.
-/
namespace QueryCriteria

/-- What one expression demands of its field: that it exists or does not, that it differs
from a scalar, that it compares to one, or that it is among some of them and not among
others, several in all. -/
inductive FieldTest where
  | present (b : Bool)
  | differs (s : Scalar)
  | order (sign : OrderSign) (s : Scalar)
  | members (included excluded : List Scalar) (several : 2 ≤ included.length + excluded.length)

namespace FieldTest

/-- The operators of a test with their operands. -/
def entries : FieldTest → List (Key × Value)
  | present b => [(.comparison .is, .bool b)]
  | differs s => [(.comparison s.exclusion, s.value)]
  | order sign s => [(.comparison sign.operator, s.value)]
  | members included excluded _ =>
    (if included.map Scalar.value = [] then []
      else [(.comparison .among, .list (included.map Scalar.value))]) ++
    (if excluded.map Scalar.value = [] then []
      else [(.comparison .notAmong, .list (excluded.map Scalar.value))])

def expression (field : List Char) : FieldTest → List Char
  | present true => field
  | present false => '!' :: field
  | differs s => field ++ '!' :: '=' :: s.token
  | order sign s => field ++ (sign.text ++ s.token)
  | members included excluded _ =>
    field ++ '=' :: Text.joinWith ','
      (included.map Scalar.token ++ excluded.map fun s => '!' :: s.token)

theorem entries_ne_nil (t : FieldTest) : t.entries ≠ [] := by
  cases t with
  | present b => exact List.cons_ne_nil _ _
  | differs s => exact List.cons_ne_nil _ _
  | order sign s => exact List.cons_ne_nil _ _
  | members included excluded several =>
    intro h
    rw [entries, List.append_eq_nil_iff] at h
    have hincluded : included = [] := by
      by_contra hne
      rw [if_neg (fun hnil => hne (List.map_eq_nil_iff.1 hnil))] at h
      exact absurd h.1 (List.cons_ne_nil _ _)
    have hexcluded : excluded = [] := by
      by_contra hne
      have h2 := h.2
      rw [if_neg (fun hnil => hne (List.map_eq_nil_iff.1 hnil))] at h2
      exact absurd h2 (List.cons_ne_nil _ _)
    rw [hincluded, hexcluded] at several
    exact absurd several (by decide)

/-- An expression is the field by itself, or it holds a character that starts a relation. -/
theorem expression_cases (t : FieldTest) (field : List Char) :
    t.expression field = field ∨ ∃ c ∈ t.expression field, Expression.isSpecial c = true := by
  cases t with
  | present b =>
    cases b
    · exact .inr ⟨'!', List.mem_cons_self, by decide⟩
    · exact .inl rfl
  | differs s => exact .inr ⟨'!', by simp [expression], by decide⟩
  | order sign s =>
    cases sign
    · exact .inr ⟨'>', by simp [expression, OrderSign.text], by decide⟩
    · exact .inr ⟨'>', by simp [expression, OrderSign.text], by decide⟩
    · exact .inr ⟨'<', by simp [expression, OrderSign.text], by decide⟩
    · exact .inr ⟨'<', by simp [expression, OrderSign.text], by decide⟩
  | members included excluded several => exact .inr ⟨'=', by simp [expression], by decide⟩

variable {field : List Char}

theorem read?_differs (h : Expression.IsField field) (s : Scalar) :
    Expression.read? ((differs s).expression field) =
      some { field, test := some (.notEqual, s.token) } := by
  refine Expression.read?_test h ?_ (Expression.readTest?_notEqual s.token_ne_nil)
  intro c hc
  rw [← Option.some.inj hc]
  decide

theorem read?_order (h : Expression.IsField field) (sign : OrderSign) (s : Scalar) :
    Expression.read? ((order sign s).expression field) =
      some { field, test := some (.order sign.operator, s.token) } := by
  have hequal : ∀ c ∈ s.token.head?, c ≠ '=' := by
    rintro c hc rfl
    exact absurd (s.isSpecial_head_token '=' hc) (by decide)
  refine Expression.read?_test h ?_ (Expression.readTest?_order sign s.token_ne_nil hequal)
  intro c hc
  cases sign <;> · rw [← Option.some.inj hc]; decide

/-- The scalars of a list, each with whether the list excludes it. -/
def membersOf (included excluded : List Scalar) : List (Bool × Scalar) :=
  included.map (fun s => (false, s)) ++ excluded.map fun s => (true, s)

theorem map_written_membersOf (included excluded : List Scalar) :
    (membersOf included excluded).map Scalar.written =
      included.map Scalar.token ++ excluded.map fun s => '!' :: s.token := by
  rw [membersOf, List.map_append, List.map_map, List.map_map]
  rfl

/-- A list starts with a token or with an exclamation mark and a token. -/
theorem exists_joinWith_written {members : List (Bool × Scalar)} (h : members ≠ []) :
    ∃ (s : Scalar) (after : List Char),
      Text.joinWith ',' (members.map Scalar.written) = s.token ++ after ∨
      Text.joinWith ',' (members.map Scalar.written) = '!' :: (s.token ++ after) := by
  obtain ⟨⟨negated, s⟩, members, rfl⟩ := List.exists_cons_of_ne_nil h
  obtain ⟨after, hafter⟩ :=
    Text.exists_joinWith_cons ',' (Scalar.written (negated, s)) (members.map Scalar.written)
  refine ⟨s, after, ?_⟩
  rw [List.map_cons, hafter]
  cases negated
  · exact .inl rfl
  · exact .inr rfl

theorem isSpecial_head_append (s : Scalar) (after : List Char) :
    ∀ c ∈ (s.token ++ after).head?, Expression.isSpecial c = false := by
  intro c hc
  rw [List.head?_append_of_ne_nil _ s.token_ne_nil] at hc
  exact s.isSpecial_head_token c hc

theorem readTest?_members {members : List (Bool × Scalar)} (h : members ≠ []) :
    Expression.readTest? ('=' :: Text.joinWith ',' (members.map Scalar.written)) =
      some (.equal, Text.joinWith ',' (members.map Scalar.written)) := by
  obtain ⟨s, after, hjoin | hjoin⟩ := exists_joinWith_written h
  · rw [hjoin]
    exact Expression.readTest?_equal (by simp [s.token_ne_nil])
      (Expression.readRelation?_plain (isSpecial_head_append s after))
  · have hequal : ∀ c ∈ (s.token ++ after).head?, c ≠ '=' := by
      rintro c hc rfl
      exact absurd (isSpecial_head_append s after '=' hc) (by decide)
    rw [hjoin]
    exact Expression.readTest?_equal (List.cons_ne_nil _ _)
      (Expression.readRelation?_marked hequal)

theorem joinWith_ne_mark {members : List (Bool × Scalar)} (h : members ≠ []) :
    Text.joinWith ',' (members.map Scalar.written) ≠ ['!'] := by
  obtain ⟨s, after, hjoin | hjoin⟩ := exists_joinWith_written h
  · rw [hjoin]
    intro he
    have hspecial := isSpecial_head_append s after '!' (by rw [he]; rfl)
    exact absurd hspecial (by decide)
  · rw [hjoin]
    simp [s.token_ne_nil]

theorem length_membersOf (included excluded : List Scalar) :
    (membersOf included excluded).length = included.length + excluded.length := by
  rw [membersOf, List.length_append, List.length_map, List.length_map]

theorem membersOf_ne_nil {included excluded : List Scalar}
    (several : 2 ≤ included.length + excluded.length) : membersOf included excluded ≠ [] := by
  intro he
  have hlength := length_membersOf included excluded
  rw [he, List.length_nil] at hlength
  omega

theorem read?_members (h : Expression.IsField field) {included excluded : List Scalar}
    (several : 2 ≤ included.length + excluded.length) :
    Expression.read? ((members included excluded several).expression field) =
      some { field, test := some (.equal,
        Text.joinWith ',' ((membersOf included excluded).map Scalar.written)) } := by
  rw [expression, ← map_written_membersOf]
  refine Expression.read?_test h ?_ (readTest?_members (membersOf_ne_nil several))
  intro c hc
  rw [← Option.some.inj hc]
  decide

theorem membership_membersOf (included excluded : List Scalar)
    (several : 2 ≤ included.length + excluded.length) :
    Comparison.membership ((membersOf included excluded).map fun member =>
      { negated := member.1, value := member.2.value }) =
      .map (members included excluded several).entries := by
  have hplain : (((membersOf included excluded).map fun member =>
      ({ negated := member.1, value := member.2.value } : Token)).filter fun t => !t.negated).map
        (·.value) = included.map Scalar.value := by
    simp [membersOf, List.filter_map, Function.comp_def]
  have hnegated : (((membersOf included excluded).map fun member =>
      ({ negated := member.1, value := member.2.value } : Token)).filter (·.negated)).map
        (·.value) = excluded.map Scalar.value := by
    simp [membersOf, List.filter_map, Function.comp_def]
  rw [Comparison.membership, hplain, hnegated]
  rfl

theorem negation_value (s : Scalar) :
    Comparison.negation s.value = .map (differs s).entries := by
  cases s <;> rfl

/-! ### Reading a test -/

theorem parse_present (h : Expression.IsField field) (b : Bool) :
    Comparison.parse {} (String.ofList ((present b).expression field)) (String.ofList []) =
      .ok (some { field := String.ofList field, value := .map (present b).entries }) := by
  cases b with
  | true =>
    have hexists : Comparison.existence field =
        { field := String.ofList field, value := Comparison.single .is (.bool true) } := by
      obtain ⟨c, cs, rfl⟩ := List.exists_cons_of_ne_nil h.nonempty
      rw [Comparison.existence]
      rintro rest ⟨⟩
      exact absurd (h.plain '!' List.mem_cons_self) (by decide)
    have hread : Expression.read? (Comparison.parameterText field []) =
        some { field, test := none } := Expression.read?_field h
    rw [expression, Comparison.parse_of_existence hread, hexists]
    rfl
  | false =>
    have hread : Expression.read? (Comparison.parameterText ('!' :: field) []) =
        some { field := '!' :: field, test := none } := Expression.read?_marked h
    exact Comparison.parse_of_existence hread

theorem parse_differs (h : Expression.IsField field) (s : Scalar) :
    Comparison.parse {} (String.ofList ((differs s).expression field)) (String.ofList []) =
      .ok (some { field := String.ofList field, value := .map (differs s).entries }) := by
  have htokens : TokenList.tokens {} (String.ofList s.token) =
      .ok [{ negated := false, value := s.value }] := Scalar.tokens_joinWith [(false, s)]
  refine Comparison.parse_of_test (read?_differs h s) ?_
  rw [Comparison.ofTest_notEqual htokens, ← negation_value]
  rfl

theorem parse_order (h : Expression.IsField field) (sign : OrderSign) (s : Scalar) :
    Comparison.parse {} (String.ofList ((order sign s).expression field)) (String.ofList []) =
      .ok (some { field := String.ofList field, value := .map (order sign s).entries }) :=
  Comparison.parse_of_test (read?_order h sign s) (Comparison.ofTest_order s.token_token _)

theorem parse_members (h : Expression.IsField field) {included excluded : List Scalar}
    (several : 2 ≤ included.length + excluded.length) :
    Comparison.parse {} (String.ofList ((members included excluded several).expression field))
        (String.ofList []) =
      .ok (some { field := String.ofList field,
                  value := .map (members included excluded several).entries }) := by
  have hmark := joinWith_ne_mark (membersOf_ne_nil several)
  have htokens := Scalar.tokens_joinWith (membersOf included excluded)
  refine Comparison.parse_of_test (read?_members h several) ?_
  rw [Comparison.ofTest_equal hmark htokens, Comparison.equality?_of_several,
    membership_membersOf included excluded several]
  rw [List.length_map, length_membersOf]
  exact several

/-- The expression of a test is read as the test. -/
theorem parse_expression (h : Expression.IsField field) (t : FieldTest) :
    Comparison.parse {} (String.ofList (t.expression field)) (String.ofList []) =
      .ok (some { field := String.ofList field, value := .map t.entries }) := by
  cases t with
  | present b => exact parse_present h b
  | differs s => exact parse_differs h s
  | order sign s => exact parse_order h sign s
  | members included excluded several => exact parse_members h several

end FieldTest
end QueryCriteria
