/-!
The comparison operators of a criteria tree, and their names in rendered criteria.
Operators that a client makes up are texts and carry no meaning here; rendered, they
have a colon before the name.
-/
namespace QueryCriteria

inductive Operator where
  | eq
  | ne
  | gt
  | ge
  | lt
  | le
  | among
  | notAmong
  | is
  | isNot
  | not
  deriving DecidableEq, Repr

namespace Operator

def name : Operator → String
  | eq => "eq"
  | ne => "ne"
  | gt => "gt"
  | ge => "gte"
  | lt => "lt"
  | le => "lte"
  | among => "in"
  | notAmong => "not_in"
  | is => "is"
  | isNot => "is_not"
  | not => "not"

def all : List Operator := [eq, ne, gt, ge, lt, le, among, notAmong, is, isNot, not]

def ofName? (text : String) : Option Operator := all.find? fun op => op.name = text

/-- The rendered name of a client's own operator. -/
def customName (text : String) : String := String.ofList (':' :: text.toList)

theorem ofName?_name (op : Operator) : ofName? op.name = some op := by cases op <;> decide

theorem name_injective {a b : Operator} (h : a.name = b.name) : a = b := by
  have hb := ofName?_name b
  rw [← h, ofName?_name a] at hb
  exact Option.some.inj hb

end Operator
end QueryCriteria
