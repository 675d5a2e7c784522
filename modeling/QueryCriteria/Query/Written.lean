import QueryCriteria.Fault
import QueryCriteria.Query.Display

/-!
Texts that have to be written before a query can be read.  An integer with too many digits
cannot be written, and neither can a text that would contain one.
-/
namespace QueryCriteria

/-- Whether a text can contain these integers. -/
def checkWritable (integers : List Int) : Except Fault Unit :=
  if integers.all isWritable then .ok () else .error .integerTooLong

namespace QueryKey

def integers : QueryKey → List Int
  | .name _ => []
  | .index n => [n]

end QueryKey

namespace QueryValue

mutual

/-- The integers in the text of a value.  A mapping is written with its keys where it is
displayed, and without them where its items are joined. -/
def integers (withKeys : Bool) : QueryValue → List Int
  | .int n => [n]
  | .list items => itemIntegers withKeys items
  | .tuple items => itemIntegers withKeys items
  | .nested entries => entryIntegers withKeys entries
  | _ => []

def itemIntegers (withKeys : Bool) : List QueryValue → List Int
  | [] => []
  | item :: items => integers withKeys item ++ itemIntegers withKeys items

def entryIntegers (withKeys : Bool) : List (QueryKey × QueryValue) → List Int
  | [] => []
  | (key, value) :: entries =>
    (if withKeys then key.integers else []) ++ integers withKeys value ++
      entryIntegers withKeys entries

end

/-- The joined items of a value. -/
def joinedText (value : QueryValue) : Except Fault (List Char) :=
  (checkWritable (value.integers false)).map fun _ => value.flatten

end QueryValue

namespace Query

/-- The integers among the keys that are compared with positions.  The first key that is
not its position settles that the keys do not count up, and no key after it is read. -/
def positionIntegers : Nat → Query → List Int
  | _, [] => []
  | n, (key, _) :: entries =>
    key.integers ++ if isPosition n key then positionIntegers (n + 1) entries else []

/-- Whether a mapping is a list in disguise, as far as its keys can be read. -/
def readShape (query : Query) : Except Fault Bool :=
  (checkWritable (positionIntegers 0 query)).map fun _ => query.isArrayShaped

end Query
end QueryCriteria
