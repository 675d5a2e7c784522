import QueryCriteria.Config.Basic
import QueryCriteria.Criteria.Build
import QueryCriteria.Criteria.Render
import QueryCriteria.Links

/-!
Selections: what a query asks for, as criteria and options, together with the query and
the configuration, which links to other pages need.
-/
namespace QueryCriteria

structure Selection where
  criteria : Criteria
  options : Options
  query : Query
  config : Config

namespace Selection

/-- The selection that a query makes and the notices about parameters that were not taken. -/
def ofQuery (config : Config) (query : Query) : Except Fault (Selection × List Notice) :=
  (query.criteria config.switches config.ignoredFields).bind fun (criteria, notices) =>
    (Options.ofQuery config.keywords config.maxLimit query).map fun (options, unused) =>
      ({ criteria, options, query, config }, notices ++ unused)

def ofText (config : Config) (text : String) : Except Fault (Selection × List Notice) :=
  (config.codec.parse text).bind (ofQuery config)

/-- The links of the page that the selection asks for. -/
def links (s : Selection) (base : String) (total : Int) : Except Fault (Option PageLinks) :=
  Links.build s.config.codec s.config.keywords.offset s.query s.options base total

end Selection
end QueryCriteria
