import QueryCriteria.Value

/-!
Criteria trees in plain data.  Operators become their names, regular expressions their
literals and dates their texts.  An operator may get the name of a field beside it; the
entry that comes later then has the last word.
-/
namespace QueryCriteria

mutual

def Value.rendered : Value → Value
  | .regex r => .str (String.ofList r.text)
  | .date m => .str (String.ofList m.text)
  | .list items => .list (renderedItems items)
  | .map entries => .map (Entries.ofList Key.label (renderedEntries entries))
  | value => value

def renderedItems : List Value → List Value
  | [] => []
  | item :: items => item.rendered :: renderedItems items

def renderedEntries : List (Key × Value) → List (Key × Value)
  | [] => []
  | (key, value) :: entries => (key.rendered, value.rendered) :: renderedEntries entries

end

namespace Criteria

def rendered (criteria : Criteria) : Criteria :=
  Entries.ofList Key.label (renderedEntries criteria)

end Criteria
end QueryCriteria
