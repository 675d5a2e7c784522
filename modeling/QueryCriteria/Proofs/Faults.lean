import QueryCriteria.Comparison
import QueryCriteria.Proofs.Expression
import QueryCriteria.Proofs.Fallible
import QueryCriteria.Proofs.TokenList

/-!
Where typing can meet a fault.  Of all readers only that of regular expressions has one, and
what it compiles stands between two slashes of the text.  Tokens, operands and expressions
are cut out of the text of a parameter, so that the slashes stand in that text.
-/
namespace QueryCriteria

namespace Regex

/-- A pattern between two slashes of a text cannot be compiled because of the fault. -/
def FaultIn (text : List Char) (fault : Fault) : Prop :=
  ∃ pattern ignoreCase, '/' :: (pattern ++ ['/']) <:+: text ∧
    compile pattern ignoreCase = .error fault

/-- A text starts with such a pattern. -/
def FaultAt (text : List Char) (fault : Fault) : Prop :=
  ∃ pattern ignoreCase, '/' :: (pattern ++ ['/']) <+: text ∧
    compile pattern ignoreCase = .error fault

theorem FaultAt.faultIn {text : List Char} {fault : Fault} (h : FaultAt text fault) :
    FaultIn text fault := by
  obtain ⟨pattern, ignoreCase, hpattern, hfault⟩ := h
  exact ⟨pattern, ignoreCase, hpattern.isInfix, hfault⟩

theorem FaultAt.mono {part text : List Char} {fault : Fault} (h : FaultAt part fault)
    (hpart : part <+: text) : FaultAt text fault := by
  obtain ⟨pattern, ignoreCase, hpattern, hfault⟩ := h
  exact ⟨pattern, ignoreCase, hpattern.trans hpart, hfault⟩

theorem FaultAt.exists_cons {text : List Char} {fault : Fault} (h : FaultAt text fault) :
    ∃ cs, text = '/' :: cs := by
  obtain ⟨pattern, -, ⟨rest, hrest⟩, -⟩ := h
  exact ⟨pattern ++ ['/'] ++ rest, hrest.symm⟩

theorem FaultIn.mono {part text : List Char} {fault : Fault} (h : FaultIn part fault)
    (hpart : part <:+: text) : FaultIn text fault := by
  obtain ⟨pattern, ignoreCase, hpattern, hfault⟩ := h
  exact ⟨pattern, ignoreCase, hpattern.trans hpart, hfault⟩

end Regex

open Regex (FaultIn FaultAt)

/-- The last slash closes the literal, and at most an `i` comes after it. -/
theorem Literal.prefix_of_readRegex? {text pattern : List Char} {ignoreCase : Bool}
    (h : readRegex? text = some (pattern, ignoreCase)) : '/' :: (pattern ++ ['/']) <+: text := by
  unfold readRegex? at h
  split at h
  · next cs =>
    split at h
    · next reversed hcs =>
      obtain ⟨rfl, -⟩ := Prod.mk.inj (Option.some.inj h)
      have hclosed : cs = reversed.reverse ++ ['/'] := by
        rw [List.reverse_eq_iff.1 hcs, List.reverse_cons]
      exact ⟨[], by rw [hclosed, List.append_nil]⟩
    · next reversed hcs =>
      obtain ⟨rfl, -⟩ := Prod.mk.inj (Option.some.inj h)
      rw [List.reverse_eq_iff.1 hcs, List.reverse_cons, List.reverse_cons]
      exact ⟨['i'], by simp⟩
    · cases h
  · cases h

namespace Reader

theorem faultAt_of_read {reader : Reader} {text : List Char} {fault : Fault}
    (h : reader.read text = .error fault) : FaultAt text fault := by
  unfold read at h
  split at h
  · cases h
  · cases reader with
    | regex =>
      have h : readRegex (Text.dropFinalNewline text) = .error fault := h
      unfold readRegex at h
      split at h
      · cases h
      · next pattern ignoreCase hliteral =>
        refine ⟨pattern, ignoreCase, ?_, Fallible.map_eq_error_iff.1 h⟩
        exact (Literal.prefix_of_readRegex? hliteral).trans (Text.dropFinalNewline_prefix text)
    | quoted => cases h
    | boolean => cases h
    | date => cases h
    | number => cases h

theorem faultAt_of_readFirst {text : List Char} {readers : List Reader} {fault : Fault}
    (h : readFirst text readers = .error fault) : FaultAt text fault := by
  induction readers with
  | nil => cases h
  | cons reader readers ih =>
    rw [readFirst] at h
    split at h
    · exact ih h
    · exact faultAt_of_read h

end Reader

namespace Switches

variable {s : Switches} {fault : Fault}

theorem faultAt_of_coerce {text : String} (h : s.coerce text = .error fault) :
    FaultAt text.toList fault :=
  Reader.faultAt_of_readFirst (Fallible.map_eq_error_iff.1 h)

/-- An exclamation mark in front of the pattern is not typed. -/
theorem faultAt_of_token {text : String} (h : s.token text = .error fault) :
    FaultAt text.toList fault ∨ ∃ rest, text.toList = '!' :: rest ∧ FaultAt rest fault := by
  unfold token at h
  split at h
  · next rest htext =>
    have hrest := faultAt_of_coerce (Fallible.map_eq_error_iff.1 h)
    rw [String.toList_ofList] at hrest
    exact .inr ⟨rest, htext, hrest⟩
  · exact .inl (faultAt_of_coerce (Fallible.map_eq_error_iff.1 h))

theorem faultIn_of_token {text : String} (h : s.token text = .error fault) :
    FaultIn text.toList fault := by
  rcases faultAt_of_token h with hstart | ⟨rest, htext, hrest⟩
  · exact hstart.faultIn
  · rw [htext]
    exact hrest.faultIn.mono (List.suffix_cons _ _).isInfix

/-- The pieces of a text are typed in turn, and the first fault is met in one of them. -/
theorem faultIn_of_tokens {text : List Char} {pieces : List (List Char)}
    (hpieces : ∀ piece ∈ pieces, piece <:+: text)
    (h : (pieces.mapM fun piece => s.token (String.ofList piece)) = .error fault) :
    FaultIn text fault := by
  obtain ⟨piece, hp, hpiece⟩ := Fallible.exists_of_mapM_error h
  have hfault := faultIn_of_token hpiece
  rw [String.toList_ofList] at hfault
  exact hfault.mono (hpieces piece hp)

end Switches

namespace Comparison

variable {switches : Switches} {fault : Fault}

theorem faultIn_of_ofTest {operand : List Char} {relation : Relation}
    (h : ofTest switches operand relation = .error fault) : FaultIn operand fault := by
  have hlist : ∀ {negate : Bool},
      (TokenList.tokens switches (String.ofList operand)).map (equality? negate) = .error fault →
        FaultIn operand fault := by
    intro negate h
    have h := Fallible.map_eq_error_iff.1 h
    rw [TokenList.tokens, String.toList_ofList] at h
    exact Switches.faultIn_of_tokens (fun _ => TokenList.infix_of_mem_split) h
  cases relation with
  | equal =>
    rw [ofTest] at h
    split at h
    · cases h
    · exact hlist h
  | notEqual => exact hlist h
  | order op =>
    have htoken := Switches.faultIn_of_token (Fallible.map_eq_error_iff.1 h)
    rwa [String.toList_ofList] at htoken
  | custom name =>
    exact Switches.faultIn_of_tokens (fun _ => Text.infix_of_mem_splitOn)
      (Fallible.map_eq_error_iff.1 h)

/-- Reading a parameter meets no fault but that of a pattern between slashes in its text. -/
theorem faultIn_of_parse {key value : String} (h : parse switches key value = .error fault) :
    FaultIn (parameterText key.toList value.toList) fault := by
  unfold parse at h
  split at h
  · cases h
  · next e hread =>
    unfold ofExpression at h
    split at h
    · cases h
    · next relation operand htest =>
      have hoperand := faultIn_of_ofTest (Fallible.map_eq_error_iff.1 h)
      exact hoperand.mono (Expression.suffix_of_read? hread htest).isInfix

end Comparison
end QueryCriteria
