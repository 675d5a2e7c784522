/-!
How many characters an expression can match.  Look-behind needs expressions of one
fixed width, so the reader keeps the least and the greatest width of everything it has
read.  Widths are counted up to a limit: a greatest width at the limit means that there is
no bound, and a least width stays one below it.
-/
namespace QueryCriteria
namespace Pattern

structure Width where
  least : Nat
  most : Nat
  deriving DecidableEq

namespace Width

/-- The width from which on all widths count as the same. -/
def limit : Nat := 4294967295

def bounded (least most : Nat) : Width :=
  { least := min least (limit - 1), most := min most limit }

def zero : Width := { least := 0, most := 0 }

def one : Width := { least := 1, most := 1 }

def add (v w : Width) : Width := bounded (v.least + w.least) (v.most + w.most)

/-- One of two alternatives. -/
def either (v w : Width) : Width :=
  { least := min v.least w.least, most := max v.most w.most }

/-- From `low` to `high` repetitions; of a part that is always empty, any number is. -/
def repeated (w : Width) (low : Nat) (high : Option Nat) : Width :=
  bounded (w.least * low) (w.most * high.getD limit)

def isFixed (w : Width) : Bool := w.least = w.most

end Width
end Pattern
end QueryCriteria
