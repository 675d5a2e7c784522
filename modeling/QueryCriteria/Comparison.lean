import QueryCriteria.Expression
import QueryCriteria.TokenList

/-!
What one parameter demands of one field.  A parameter is read as an expression; without
a relation it asks whether the field exists, and otherwise its operand is typed.  A list
of several values stands for membership, and exclamation marks negate.
-/
namespace QueryCriteria

structure Comparison where
  field : String
  value : Value

namespace Comparison

def single (op : Operator) (operand : Value) : Value := .map [(.comparison op, operand)]

/-- Whether the field exists, an exclamation mark in front of it asking for the opposite. -/
def existence : List Char → Comparison
  | '!' :: field => { field := String.ofList field, value := single .is (.bool false) }
  | field => { field := String.ofList field, value := single .is (.bool true) }

/-- A regular expression is negated by an operator of its own. -/
def negation (operand : Value) : Value :=
  match operand with
  | .regex _ => single .not operand
  | _ => single .ne operand

/-- The plain values are the ones allowed, the negated ones those excluded. -/
def membership (tokens : List Token) : Value :=
  let plain := (tokens.filter fun t => !t.negated).map (·.value)
  let negated := (tokens.filter (·.negated)).map (·.value)
  .map ((if plain = [] then [] else [(.comparison .among, .list plain)]) ++
    (if negated = [] then [] else [(.comparison .notAmong, .list negated)]))

def equality? (negate : Bool) : List Token → Option Value
  | [] => none
  | [token] => some (if negate || token.negated then negation token.value else token.value)
  | tokens =>
    some <|
      if negate then single .notAmong (.list (tokens.map (·.value))) else membership tokens

/-- Commas always separate the values of a client's own operator. -/
def custom (name : List Char) (tokens : List Token) : Value :=
  .map [(.custom (String.ofList name),
    match tokens with
    | [token] => token.value
    | _ => .list (tokens.map (·.value)))]

def ofTest (switches : Switches) (operand : List Char) : Relation → Except Fault (Option Value)
  | .equal =>
    if operand = ['!'] then .ok (some (single .is (.bool false)))
    else (TokenList.tokens switches (String.ofList operand)).map (equality? false)
  | .notEqual => (TokenList.tokens switches (String.ofList operand)).map (equality? true)
  | .order op =>
    (switches.token (String.ofList operand)).map fun token => some (single op token.value)
  | .custom name =>
    ((Text.splitOn ',' operand).mapM fun part => switches.token (String.ofList part)).map
      fun tokens => some (custom name tokens)

def ofExpression (switches : Switches) (e : Expression) : Except Fault (Option Comparison) :=
  match e.test with
  | none => .ok (some (existence e.field))
  | some (relation, operand) =>
    (ofTest switches operand relation).map fun found =>
      found.map fun value => { field := String.ofList e.field, value }

/-- The text of a parameter; without a value it is the key alone. -/
def parameterText (key value : List Char) : List Char :=
  if value = [] then key else key ++ '=' :: value

/-- The comparison that a parameter writes, if it writes one. -/
def parse (switches : Switches) (key value : String) : Except Fault (Option Comparison) :=
  match Expression.read? (parameterText key.toList value.toList) with
  | none => .ok none
  | some e => ofExpression switches e

end Comparison
end QueryCriteria
