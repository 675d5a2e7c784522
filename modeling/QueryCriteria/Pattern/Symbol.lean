/-!
The symbols of a regular expression: single characters, and characters with a backslash
before them.  A backslash at the very end is half a symbol, and such a text is no
expression.
-/
namespace QueryCriteria
namespace Pattern

structure Symbol where
  char : Char
  escaped : Bool
  deriving DecidableEq

def symbols? : List Char → Option (List Symbol)
  | [] => some []
  | '\\' :: c :: cs => (symbols? cs).map ({ char := c, escaped := true } :: ·)
  | ['\\'] => none
  | c :: cs => (symbols? cs).map ({ char := c, escaped := false } :: ·)

namespace Symbol

def isPlain (s : Symbol) (c : Char) : Bool := !s.escaped && s.char == c

end Symbol

/-- The characters before the first unescaped `stop`, and what follows it.  None of them
may be escaped: the texts read this way are names and numbers. -/
def untilPlain? (stop : Char) : List Symbol → Option (List Char × List Symbol)
  | [] => none
  | s :: rest =>
    if s.escaped then none
    else if s.char = stop then some ([], rest)
    else (untilPlain? stop rest).map fun (cs, after) => (s.char :: cs, after)

/-- What follows the first unescaped `stop`. -/
def afterPlain? (stop : Char) : List Symbol → Option (List Symbol)
  | [] => none
  | s :: rest => if s.isPlain stop then some rest else afterPlain? stop rest

/-- Up to `count` unescaped characters of a class, and the rest. -/
def takePlain (p : Char → Bool) : Nat → List Symbol → List Char × List Symbol
  | count + 1, s :: rest =>
    if !s.escaped && p s.char then
      match takePlain p count rest with
      | (cs, after) => (s.char :: cs, after)
    else ([], s :: rest)
  | _, rest => ([], rest)

end Pattern
end QueryCriteria
