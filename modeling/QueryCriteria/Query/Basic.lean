import QueryCriteria.Number.Binary64
import QueryCriteria.Entries

/-!
Queries as a reader of query strings delivers them: named parameters in the order in
which they came.  A parameter that was repeated holds a list, and a reader that
understands brackets nests one query in another.  A caller may also hand over values
that are no texts.
-/
namespace QueryCriteria

inductive QueryKey where
  | name (text : String)
  | index (n : Int)
  deriving DecidableEq, Repr

inductive QueryValue where
  | null
  | bool (b : Bool)
  | int (n : Int)
  | float (x : Binary64)
  | text (s : String)
  | list (items : List QueryValue)
  | tuple (items : List QueryValue)
  | nested (entries : List (QueryKey × QueryValue))
  deriving Inhabited

abbrev Query := List (QueryKey × QueryValue)

namespace Query

def get? (query : Query) (key : QueryKey) : Option QueryValue := Entries.get? id key query

def insert (query : Query) (key : QueryKey) (value : QueryValue) : Query :=
  Entries.insert id key value query

/-- Whether a key is the decimal text of a number, or the number itself. -/
def isPosition (n : Nat) : QueryKey → Bool
  | .name text => text.toList = naturalText n
  | .index m => m = n

def positionsFrom : Nat → Query → Bool
  | _, [] => true
  | n, (key, _) :: entries => isPosition n key && positionsFrom (n + 1) entries

/-- A list in disguise: at least one entry, and the keys count up from zero. -/
def isArrayShaped (query : Query) : Bool := !query.isEmpty && positionsFrom 0 query

end Query
end QueryCriteria
