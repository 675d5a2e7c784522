/-!
The names of the parameters that shape a result and are no filters.
-/
namespace QueryCriteria

structure Keywords where
  fields : String := "fields"
  omitted : String := "omit"
  sort : String := "sort"
  offset : String := "offset"
  limit : String := "limit"
  deriving DecidableEq, Repr

namespace Keywords

def names (k : Keywords) : List String := [k.fields, k.omitted, k.sort, k.offset, k.limit]

end Keywords
end QueryCriteria
