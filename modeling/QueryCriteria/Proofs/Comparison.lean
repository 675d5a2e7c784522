import QueryCriteria.Comparison

/-!
What comparisons demand, once their expressions and operands are read.
-/
namespace QueryCriteria
namespace Comparison

variable {switches : Switches} {key value field operand : List Char}

/-- A parameter that asks whether a field exists. -/
theorem parse_of_existence
    (h : Expression.read? (parameterText key value) = some { field, test := none }) :
    parse switches (String.ofList key) (String.ofList value) = .ok (some (existence field)) := by
  rw [parse, String.toList_ofList, String.toList_ofList, h]
  rfl

/-- A parameter that tests a field. -/
theorem parse_of_test {relation : Relation} {demanded : Value}
    (h : Expression.read? (parameterText key value) =
      some { field, test := some (relation, operand) })
    (ht : ofTest switches operand relation = .ok (some demanded)) :
    parse switches (String.ofList key) (String.ofList value) =
      .ok (some { field := String.ofList field, value := demanded }) := by
  rw [parse, String.toList_ofList, String.toList_ofList, h]
  show (ofTest switches operand relation).map _ = _
  rw [ht]
  rfl

/-! ### Operands -/

theorem ofTest_equal {tokens : List Token} (hm : operand ≠ ['!'])
    (h : TokenList.tokens switches (String.ofList operand) = .ok tokens) :
    ofTest switches operand .equal = .ok (equality? false tokens) := by
  rw [ofTest, if_neg hm, h]
  rfl

theorem ofTest_notEqual {tokens : List Token}
    (h : TokenList.tokens switches (String.ofList operand) = .ok tokens) :
    ofTest switches operand .notEqual = .ok (equality? true tokens) := by
  rw [ofTest, h]
  rfl

theorem ofTest_order {token : Token} (h : switches.token (String.ofList operand) = .ok token)
    (op : Operator) : ofTest switches operand (.order op) = .ok (some (single op token.value)) := by
  rw [ofTest, h]
  rfl

theorem equality?_of_several {tokens : List Token} (h : 2 ≤ tokens.length) :
    equality? false tokens = some (membership tokens) := by
  match tokens with
  | [] => cases h
  | [token] => exact absurd h (by simp)
  | first :: second :: tokens => rfl

end Comparison
end QueryCriteria
