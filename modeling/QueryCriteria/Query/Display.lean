import QueryCriteria.Query.Basic
import QueryCriteria.Number.Shortest
import QueryCriteria.Text.Quoted
import QueryCriteria.Text.Segment

/-!
Query values as text.  `display` writes a value by itself, so that a text stays as it
is; inside a list or a mapping a text is quoted.  `flatten` joins the items of a list,
and of a mapping, with commas instead, to any depth.
-/
namespace QueryCriteria

/-- Items with a comma and a space between neighbours. -/
def listed : List (List Char) → List Char
  | [] => []
  | [item] => item
  | item :: next :: items => item ++ ',' :: ' ' :: listed (next :: items)

namespace QueryKey

def display : QueryKey → List Char
  | .name text => text.toList
  | .index n => integerText n

def shown : QueryKey → List Char
  | .name text => Text.quoted text.toList
  | .index n => integerText n

end QueryKey

namespace QueryValue

mutual

def shown : QueryValue → List Char
  | .null => ['N', 'o', 'n', 'e']
  | .bool b => if b then ['T', 'r', 'u', 'e'] else ['F', 'a', 'l', 's', 'e']
  | .int n => integerText n
  | .float x => x.text
  | .text s => Text.quoted s.toList
  | .list items => '[' :: (listed (shownItems items) ++ [']'])
  | .tuple items =>
    '(' :: (listed (shownItems items) ++ if items.length = 1 then [',', ')'] else [')'])
  | .nested entries => '{' :: (listed (shownEntries entries) ++ ['}'])

def shownItems : List QueryValue → List (List Char)
  | [] => []
  | item :: items => shown item :: shownItems items

def shownEntries : List (QueryKey × QueryValue) → List (List Char)
  | [] => []
  | (key, value) :: entries => (key.shown ++ ':' :: ' ' :: shown value) :: shownEntries entries

end

def display : QueryValue → List Char
  | .text s => s.toList
  | value => shown value

mutual

def flatten : QueryValue → List Char
  | .text s => s.toList
  | .list items => Text.joinWith ',' (flattenItems items)
  | .tuple items => Text.joinWith ',' (flattenItems items)
  | .nested entries => Text.joinWith ',' (flattenEntries entries)
  | value => shown value

def flattenItems : List QueryValue → List (List Char)
  | [] => []
  | item :: items => flatten item :: flattenItems items

def flattenEntries : List (QueryKey × QueryValue) → List (List Char)
  | [] => []
  | (_, value) :: entries => flatten value :: flattenEntries entries

end

end QueryValue
end QueryCriteria
