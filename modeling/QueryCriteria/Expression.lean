import QueryCriteria.Operator

/-!
Expressions such as `age>=18`: a field, and optionally a relation with a text after it.
The field is an optional exclamation mark and the longest run of characters that no
relation starts with.  One equals sign may stand in front of the relation, which helps
clients that can write operators only into values; it counts as the relation itself
where what follows is none.
-/
namespace QueryCriteria

inductive Relation where
  | equal
  | notEqual
  | order (op : Operator)
  | custom (name : List Char)
  deriving DecidableEq

structure Expression where
  field : List Char
  test : Option (Relation × List Char)
  deriving DecidableEq

namespace Expression

/-- The characters that start a relation. -/
def isSpecial (c : Char) : Bool := c == '>' || c == '<' || c == '!' || c == '=' || c == ':'

def spanPlain? (cs : List Char) : Option (List Char × List Char) :=
  if cs.takeWhile (!isSpecial ·) = [] then none
  else some (cs.takeWhile (!isSpecial ·), cs.dropWhile (!isSpecial ·))

def spanField? : List Char → Option (List Char × List Char)
  | '!' :: cs => (spanPlain? cs).map fun (field, rest) => ('!' :: field, rest)
  | cs => spanPlain? cs

/-- The texts around the last equals sign that has a text after it. -/
def cutLast? : List Char → Option (List Char × List Char)
  | [] => none
  | c :: cs =>
    match cutLast? cs with
    | some (before, after) => some (c :: before, after)
    | none => if c = '=' ∧ cs ≠ [] then some ([], cs) else none

/-- An order relation and its operand, given the relation without and with an equals
sign; without an operand the equals sign is the operand. -/
def readOrder? (strict weak : Operator) : List Char → Option (Relation × List Char)
  | [] => none
  | ['='] => some (.order strict, ['='])
  | '=' :: operand => some (.order weak, operand)
  | operand => some (.order strict, operand)

def readRelation? : List Char → Option (Relation × List Char)
  | '>' :: cs => readOrder? .gt .ge cs
  | '<' :: cs => readOrder? .lt .le cs
  | '!' :: '=' :: operand => if operand = [] then none else some (.notEqual, operand)
  | '=' :: operand => if operand = [] then none else some (.equal, operand)
  | ':' :: cs =>
    match cutLast? cs with
    | some (name, operand) => if name = [] then none else some (.custom name, operand)
    | none => none
  | _ => none

def readTest? : List Char → Option (Relation × List Char)
  | '=' :: cs =>
    match readRelation? cs with
    | some test => some test
    | none => readRelation? ('=' :: cs)
  | cs => readRelation? cs

def read? (text : List Char) : Option Expression :=
  (spanField? text).bind fun (field, rest) =>
    if rest = [] then some { field, test := none }
    else (readTest? rest).map fun test => { field, test := some test }

end Expression
end QueryCriteria
