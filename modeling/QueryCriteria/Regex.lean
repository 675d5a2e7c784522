import QueryCriteria.Fault
import QueryCriteria.Pattern.Reading

/-!
Regular expressions as criteria values.  Only texts that can be read as expressions
become one; what they match is the business of whoever evaluates the criteria.
-/
namespace QueryCriteria

structure Regex where
  pattern : String
  ignoreCase : Bool
  deriving DecidableEq

namespace Regex

/-- The widest look-behind that an expression may have in the version of the expression engine
that is followed here.  Other versions draw this line elsewhere. -/
def maxBehind : Nat := 2147483647

/-- The expression with the given text, if it is one.  Case is ignored on request or when
a flag in the text says so for the whole expression.  An expression that looks too far
behind is no mistake of the text but a fault of this version of the engine.  How deep
expressions may be nested before an engine runs out of stack is left out. -/
def compile (pattern : List Char) (ignoreCase : Bool) : Except Fault (Option Regex) :=
  match Pattern.read? pattern with
  | none => .ok none
  | some r =>
    if maxBehind < r.behind then .error .lookBehindTooWide
    else
      .ok (some
        { pattern := String.ofList pattern, ignoreCase := ignoreCase || r.flags.contains 'i' })

/-- The literal that stands for the expression in a query. -/
def text (r : Regex) : List Char :=
  '/' :: (r.pattern.toList ++ '/' :: if r.ignoreCase then ['i'] else [])

end Regex
end QueryCriteria
