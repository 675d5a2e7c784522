import QueryCriteria.Form.Pairs
import QueryCriteria.Query.Display

/-!
Query strings without structure in their keys.  Keys keep the order in which they are
first seen; a key that is repeated gets the list of its values.  Written, a list repeats
its key, and a mapping counts as the list of its keys.
-/
namespace QueryCriteria
namespace Flat

/-- One more value for a key. -/
def add (query : Query) (key value : List Char) : Query :=
  let name := QueryKey.name (String.ofList key)
  let text := QueryValue.text (String.ofList value)
  query.insert name <|
    match query.get? name with
    | none => text
    | some (.list items) => .list (items ++ [text])
    | some first => .list [first, text]

def ofPairs (pairs : List (List Char × List Char)) : Query :=
  pairs.foldl (fun query pair => add query pair.1 pair.2) []

/-- A question mark may stand in front of a query string. -/
def body : List Char → List Char
  | '?' :: cs => cs
  | cs => cs

def parse (text : List Char) : Query := ofPairs (Form.readPairs (body text))

/-- The texts that a value stands for in a query string. -/
def valueTexts : QueryValue → List (List Char)
  | .list items => items.map QueryValue.display
  | .tuple items => items.map QueryValue.display
  | .nested entries => entries.map fun entry => entry.1.display
  | value => [value.display]

def pairsOf (query : Query) : List (List Char × List Char) :=
  query.flatMap fun entry => (valueTexts entry.2).map fun text => (entry.1.display, text)

def stringify (query : Query) : List Char := Form.writePairs (pairsOf query)

end Flat
end QueryCriteria
