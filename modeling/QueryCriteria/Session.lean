import QueryCriteria.Config.Build
import QueryCriteria.Selection

/-!
Selections one after the other.  A session keeps the configuration in force and the last
selection, which in turn keeps the configuration that it was made with.
-/
namespace QueryCriteria

structure Session where
  config : Config := {}
  last : Option Selection := none

namespace Session

/-- More settings on top of the configuration in force; settings that are refused leave
the session as it was. -/
def configure (s : Session) (settings : Settings) : Except ConfigError Session :=
  (Config.build s.config settings).map fun config => { s with config }

def reset (s : Session) : Session := { s with config := {} }

def select (s : Session) (query : Query) : Except Fault (Session × Selection) :=
  (Selection.ofQuery s.config query).map fun (found, _) =>
    ({ s with last := some found }, found)

def selectText (s : Session) (text : String) : Except Fault (Session × Selection) :=
  (Selection.ofText s.config text).map fun (found, _) =>
    ({ s with last := some found }, found)

/-- The text of a query in the form of the configuration in force. -/
def textOf (s : Session) (found : Selection) : String := s.config.codec.stringify found.query

end Session
end QueryCriteria
