import QueryCriteria.Codec
import QueryCriteria.Coercion
import QueryCriteria.Keywords
import QueryCriteria.Names

/-!
The configuration with which queries are read.
-/
namespace QueryCriteria

structure Config where
  keywords : Keywords := {}
  /-- Parameters that are never filters, besides the keywords. -/
  ignore : Names := []
  /-- The greatest limit, which also stands in for a limit that is not given. -/
  maxLimit : Option Int := none
  codec : Codec := .flat
  switches : Switches := {}
  deriving DecidableEq

namespace Config

def keywordNames (c : Config) : Names := Names.ofList c.keywords.names

/-- The names that are never filters at the top of a query. -/
def ignoredFields (c : Config) : Names := Names.union c.ignore c.keywordNames

end Config
end QueryCriteria
