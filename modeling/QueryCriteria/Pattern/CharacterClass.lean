import QueryCriteria.Pattern.Escape

/-!
Character classes `[...]` in a regular expression.  A closing bracket that comes first
stands for itself, and the ends of a range have to be single characters in order.
-/
namespace QueryCriteria
namespace Pattern

def classItem? (s : Symbol) (rest : List Symbol) : Option (ClassItem × List Symbol) :=
  if s.escaped then classEscape? s.char rest else some (.point s.char.toNat, rest)

def isRange : ClassItem → ClassItem → Bool
  | .point low, .point high => low ≤ high
  | _, _ => false

/-- The symbols after the class whose items start here.  Each item takes at least one
symbol, so the length of the text is fuel enough. -/
def readItems? : Nat → Bool → List Symbol → Option (List Symbol)
  | fuel + 1, first, s :: rest =>
    if s.isPlain ']' && !first then some rest
    else
      (classItem? s rest).bind fun (item, after) =>
        match after with
        | dash :: s :: more =>
          if dash.isPlain '-' then
            if s.isPlain ']' then some more
            else
              (classItem? s more).bind fun (top, more) =>
                if isRange item top then readItems? fuel false more else none
          else readItems? fuel false after
        | _ => readItems? fuel false after
  | _, _, _ => none

/-- The symbols after the class whose opening bracket has just been read. -/
def readClass? (symbols : List Symbol) : Option (List Symbol) :=
  match symbols with
  | s :: rest => if s.isPlain '^' then readItems? rest.length true rest else readItems? symbols.length true symbols
  | [] => none

end Pattern
end QueryCriteria
