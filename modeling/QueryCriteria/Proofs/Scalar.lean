import QueryCriteria.Comparison
import QueryCriteria.Proofs.Expression
import QueryCriteria.Proofs.Fallible
import QueryCriteria.Proofs.TokenList
import QueryCriteria.Proofs.TypedLiteral

/-!
Scalars and the tokens that write them.  A token is typed as the scalar that it writes, it
is one token of any list, and it starts like no relation.
-/
namespace QueryCriteria

inductive QuoteStyle where
  | double
  | single
  deriving DecidableEq, Repr

namespace QuoteStyle

def mark : QuoteStyle → Char
  | double => '"'
  | single => '\''

theorem mark_eq (style : QuoteStyle) : style.mark = '"' ∨ style.mark = '\'' := by
  cases style
  · exact .inl rfl
  · exact .inr rfl

end QuoteStyle

/-- A value that a token can write: an integer that is not too long, a moment in universal
time, a text in quotes of either style, or a pattern without a slash by itself. -/
inductive Scalar where
  | bool (b : Bool)
  | int (n : Int) (writable : isWritable n = true)
  | date (m : Moment) (universal : m.IsUniversal)
  | str (style : QuoteStyle) (s : String)
  | regex (pattern : List Char) (ignoreCase : Bool) (r : Regex)
      (compiles : Regex.compile pattern ignoreCase = .ok (some r))
      (closed : Literal.hasBare '/' pattern = false)

namespace Scalar

def value : Scalar → Value
  | bool b => .bool b
  | int n _ => .int n
  | date m _ => .date m
  | str _ s => .str s
  | regex _ _ r _ _ => .regex r

def token : Scalar → List Char
  | bool true => ['t', 'r', 'u', 'e']
  | bool false => ['f', 'a', 'l', 's', 'e']
  | int n _ => integerText n
  | date m _ => m.text
  | str style s => Literal.enquoted style.mark s.toList
  | regex pattern ignoreCase _ _ _ => Literal.slashed pattern ignoreCase

/-- The operator that excludes a scalar. -/
def exclusion : Scalar → Operator
  | regex _ _ _ _ _ => .not
  | _ => .ne

theorem coerce_token (s : Scalar) : ({} : Switches).coerce (String.ofList s.token) = .ok s.value := by
  cases s with
  | bool b =>
    cases b
    · exact Switches.coerce_false
    · exact Switches.coerce_true
  | int n hn =>
    have h := Switches.coerce_integer ((IntegerLiteral.isShort_ofInt n).trans hn)
    rwa [IntegerLiteral.text_ofInt, IntegerLiteral.value_ofInt] at h
  | date m hm => exact Switches.coerce_moment hm
  | str style s =>
    have h := Switches.coerce_enquoted style.mark_eq s.toList
    rwa [String.ofList_toList] at h
  | regex pattern ignoreCase r hr _ => exact Switches.coerce_slashed hr

/-! ### Tokens among other tokens -/

theorem isLiteral_of_numeric {token : List Char}
    (h : ∃ c cs, token = c :: cs ∧ (c = '-' ∨ c.isDigit = true)) (hcomma : ',' ∉ token) :
    TokenList.IsLiteral token := by
  obtain ⟨c, cs, rfl, hc⟩ := h
  refine TokenList.isLiteral_plain (List.cons_ne_nil c cs) ?_ hcomma
  intro d hd
  obtain rfl := Option.some.inj hd
  exact ⟨Text.ne_of_minus_or_digit hc (by decide) (by decide),
    Text.ne_of_minus_or_digit hc (by decide) (by decide),
    Text.ne_of_minus_or_digit hc (by decide) (by decide),
    Text.ne_of_minus_or_digit hc (by decide) (by decide)⟩

theorem isLiteral_token (s : Scalar) : TokenList.IsLiteral s.token := by
  cases s with
  | bool b =>
    refine TokenList.isLiteral_plain ?_ ?_ ?_
    · cases b <;> exact List.cons_ne_nil _ _
    · intro c hc
      cases b <;> · rw [← Option.some.inj hc]; decide
    · cases b <;> decide
  | int n hn =>
    obtain ⟨c, cs, hcs, hc⟩ := (IntegerLiteral.ofInt n).exists_text_eq_cons
    have hcomma : ',' ∉ (IntegerLiteral.ofInt n).text :=
      (IntegerLiteral.ofInt n).not_mem_text (by decide) (by decide)
    rw [IntegerLiteral.text_ofInt] at hcs hcomma
    exact isLiteral_of_numeric ⟨c, cs, hcs, hc⟩ hcomma
  | date m hm =>
    obtain ⟨c, cs, hcs, hc⟩ := DateText.exists_text_eq_cons hm
    exact isLiteral_of_numeric ⟨c, cs, hcs, .inr hc⟩ (DateText.comma_not_mem_text hm)
  | str style s => exact TokenList.isLiteral_enquoted style.mark_eq s.toList
  | regex pattern ignoreCase r hr hb => exact TokenList.isLiteral_slashed hr hb

/-- No token starts like a relation. -/
theorem isSpecial_head_token (s : Scalar) :
    ∀ c ∈ s.token.head?, Expression.isSpecial c = false := by
  intro c hc
  cases s with
  | bool b => cases b <;> · rw [← Option.some.inj hc]; decide
  | int n hn =>
    have hmem : c ∈ (IntegerLiteral.ofInt n).text := by
      rw [IntegerLiteral.text_ofInt]
      exact List.mem_of_mem_head? hc
    rcases IntegerLiteral.mem_text hmem with rfl | h
    · decide
    · refine Expression.isSpecial_of_isAlphanum ?_
      rw [Char.isAlphanum, h, Bool.or_true]
  | date m hm =>
    obtain ⟨d, cs, hcs, hd⟩ := DateText.exists_text_eq_cons hm
    have hhead : m.text.head? = some c := hc
    rw [hcs] at hhead
    rw [← Option.some.inj hhead]
    refine Expression.isSpecial_of_isAlphanum ?_
    rw [Char.isAlphanum, hd, Bool.or_true]
  | str style s =>
    rw [← Option.some.inj hc]
    cases style <;> decide
  | regex pattern ignoreCase r hr hb =>
    rw [← Option.some.inj hc]
    decide

theorem token_ne_nil (s : Scalar) : s.token ≠ [] := s.isLiteral_token.nonempty

theorem token_token (s : Scalar) :
    ({} : Switches).token (String.ofList s.token) = .ok { negated := false, value := s.value } := by
  have hmark : ∀ c ∈ s.token.head?, c ≠ '!' := by
    rintro c hc rfl
    exact absurd (s.isSpecial_head_token '!' hc) (by decide)
  rw [Switches.token_unmarked hmark, coerce_token]
  rfl

theorem token_marked (s : Scalar) :
    ({} : Switches).token (String.ofList ('!' :: s.token)) =
      .ok { negated := true, value := s.value } := by
  rw [Switches.token_marked, coerce_token]
  rfl

/-! ### Lists of tokens -/

/-- A scalar in a list, with an exclamation mark if it is one that the list excludes. -/
def written (member : Bool × Scalar) : List Char :=
  if member.1 then '!' :: member.2.token else member.2.token

theorem standalone_written (member : Bool × Scalar) : TokenList.Standalone (written member) := by
  rw [written]
  split
  · exact member.2.isLiteral_token.standalone_marked
  · exact member.2.isLiteral_token.standalone

theorem token_written (member : Bool × Scalar) :
    ({} : Switches).token (String.ofList (written member)) =
      .ok { negated := member.1, value := member.2.value } := by
  obtain ⟨negated, s⟩ := member
  cases negated
  · exact token_token s
  · exact token_marked s

theorem tokens_joinWith (members : List (Bool × Scalar)) :
    TokenList.tokens {} (String.ofList (Text.joinWith ',' (members.map written))) =
      .ok (members.map fun member => { negated := member.1, value := member.2.value }) := by
  have hsplit : TokenList.split (Text.joinWith ',' (members.map written)) = members.map written := by
    refine TokenList.split_joinWith fun token ht => ?_
    obtain ⟨member, -, rfl⟩ := List.mem_map.1 ht
    exact standalone_written member
  rw [TokenList.tokens, String.toList_ofList, hsplit, List.mapM_map]
  exact Fallible.mapM_ok fun member _ => token_written member

end Scalar
end QueryCriteria
