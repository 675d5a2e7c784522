import QueryCriteria.Query.Basic

/-!
Notices about parameters that were not taken as the client wrote them.  A notice is a
template and the values that belong into it; the parts are not put together here.
-/
namespace QueryCriteria

inductive Notice where
  /-- A parameter that is no comparison and was dropped. -/
  | unreadable (key : QueryKey)
  /-- An offset that is no number. -/
  | notNumeric (keyword : String) (value : QueryValue)
  /-- A limit that is no number or less than one. -/
  | invalidLimit (keyword : String) (value : QueryValue)
  /-- A limit above the greatest one allowed. -/
  | clamped (limit greatest : Int)

namespace Notice

/-- The part of a selection that gives the notice. -/
def source : Notice → String
  | unreadable _ => "criteria"
  | _ => "options"

def template : Notice → String
  | unreadable _ => "Dropping unparseable query parameter %r"
  | notNumeric _ _ => "Ignoring non-numeric %s=%r"
  | invalidLimit _ _ => "Ignoring invalid %s=%r"
  | clamped _ _ => "Clamping limit %d to max_limit %d"

def arguments : Notice → List QueryValue
  | unreadable (.name text) => [.text text]
  | unreadable (.index n) => [.int n]
  | notNumeric keyword value => [.text keyword, value]
  | invalidLimit keyword value => [.text keyword, value]
  | clamped limit greatest => [.int limit, .int greatest]

end Notice
end QueryCriteria
