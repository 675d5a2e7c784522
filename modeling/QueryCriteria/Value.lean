import QueryCriteria.Entries
import QueryCriteria.Moment
import QueryCriteria.Number.Binary64
import QueryCriteria.Operator
import QueryCriteria.Regex

/-!
Criteria values.  A criteria tree is a mapping from fields to values, and the value of a
field may again be a mapping, from operators to operands or from the fields of a nested
object.  A comparison operator as a key has the label of a field with its name, so that
the two cannot stand side by side; a client's own operator has a label of its own.
-/
namespace QueryCriteria

inductive Key where
  | field (name : String)
  | index (n : Int)
  | comparison (op : Operator)
  | custom (name : String)
  deriving DecidableEq

namespace Key

/-- What keys are told apart by. -/
inductive Label where
  | text (s : String)
  | index (n : Int)
  | custom (name : String)
  deriving DecidableEq

def label : Key → Label
  | field name => .text name
  | index n => .index n
  | comparison op => .text op.name
  | custom name => .custom name

/-- The key that stands for an operator in rendered criteria; fields stand for themselves. -/
def rendered : Key → Key
  | comparison op => .field op.name
  | custom name => .field (Operator.customName name)
  | key => key

end Key

inductive Value where
  | null
  | bool (b : Bool)
  | int (n : Int)
  | float (x : Binary64)
  | str (s : String)
  | date (m : Moment)
  | regex (r : Regex)
  | list (items : List Value)
  | tuple (items : List Value)
  | map (entries : List (Key × Value))
  deriving Inhabited

abbrev Criteria := List (Key × Value)

namespace Criteria

def get? (criteria : Criteria) (key : Key) : Option Value := Entries.get? Key.label key criteria

def insert (criteria : Criteria) (key : Key) (value : Value) : Criteria :=
  Entries.insert Key.label key value criteria

end Criteria
end QueryCriteria
