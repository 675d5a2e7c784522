import QueryCriteria.Number.Numeral

/-!
What can be wrong with settings, where it is wrong, and how it is worded.
-/
namespace QueryCriteria

inductive ProblemKind where
  | unknownName
  /-- A group of settings that is no object; the group has a name. -/
  | noObject (group : String)
  | noText
  | emptyText
  | noSet
  | notPositive
  | unreadableInteger
  /-- A number too large to be taken for an integer. -/
  | oversized
  | fractional
  | noInteger
  | unreadableSwitch
  | noSwitch
  | noCodec
  deriving DecidableEq, Repr

namespace ProblemKind

def name : ProblemKind → String
  | unknownName => "extra_forbidden"
  | noObject _ => "model_type"
  | noText => "string_type"
  | emptyText => "string_too_short"
  | noSet => "frozen_set_type"
  | notPositive => "greater_than"
  | unreadableInteger => "int_parsing"
  | oversized => "int_parsing_size"
  | fractional => "int_from_float"
  | noInteger => "int_type"
  | unreadableSwitch => "bool_parsing"
  | noSwitch => "bool_type"
  | noCodec => "value_error"

def message : ProblemKind → String
  | unknownName => "Extra inputs are not permitted"
  | noObject group => "Input should be a valid dictionary or instance of " ++ group
  | noText => "Input should be a valid string"
  | emptyText => "String should have at least 1 character"
  | noSet => "Input should be a valid frozenset"
  | notPositive => "Input should be greater than 0"
  | unreadableInteger =>
    "Input should be a valid integer, unable to parse string as an integer"
  | oversized => "Unable to parse input string as an integer, exceeded maximum size"
  | fractional => "Input should be a valid integer, got a number with a fractional part"
  | noInteger => "Input should be a valid integer"
  | unreadableSwitch => "Input should be a valid boolean, unable to interpret input"
  | noSwitch => "Input should be a valid boolean"
  | noCodec => "Value error, parser must provide parse() and stringify()"

end ProblemKind

/-- A step on the way to a setting. -/
inductive Place where
  | name (text : String)
  | index (n : Nat)
  deriving DecidableEq, Repr

structure Problem where
  kind : ProblemKind
  place : List Place
  deriving DecidableEq, Repr

inductive ConfigError where
  | invalid (problems : List Problem)
  /-- A list or a mapping among the names to ignore. -/
  | nestedIgnore (isMapping : Bool)
  deriving DecidableEq, Repr

namespace ConfigError

def message : ConfigError → String
  | invalid problems =>
    "Invalid translator configuration (" ++ String.ofList (naturalText problems.length) ++
      " error(s))"
  | nestedIgnore isMapping => "unhashable type: '" ++ (if isMapping then "dict" else "list") ++ "'"

/-- The name under which an invalid configuration is reported. -/
def code : String := "CONFIGURATION_ERROR"

end ConfigError
end QueryCriteria
