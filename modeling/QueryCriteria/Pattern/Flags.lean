import QueryCriteria.Pattern.Symbol

/-!
Flags written inside a regular expression, such as `(?i)` for the whole of it and
`(?s-i:...)` for one group.  `a` and `u` exclude each other and cannot be switched off,
`t` holds for the whole expression only, and no flag may be switched on and off at once.
-/
namespace QueryCriteria
namespace Pattern

inductive FlagChange where
  /-- For the whole expression. -/
  | whole (on : List Char)
  /-- For the group that the colon starts. -/
  | scoped (on off : List Char)

def isFlag (c : Char) : Bool := ['i', 'm', 's', 'x', 'a', 't', 'u'].contains c

def compatible (flags : List Char) : Bool := !(flags.contains 'a' && flags.contains 'u')

/-- The letters up to the first symbol that is no flag, and that symbol's character. -/
def readLetters? : List Symbol → Option (List Char × Char × List Symbol)
  | [] => none
  | s :: rest =>
    if s.escaped then none
    else if isFlag s.char then (readLetters? rest).map fun (cs, stop, after) => (s.char :: cs, stop, after)
    else some ([], s.char, rest)

def readOff? (on : List Char) (rest : List Symbol) : Option (FlagChange × List Symbol) :=
  (readLetters? rest).bind fun (off, stop, after) =>
    if stop = ':' ∧ off ≠ [] ∧
        !(off.any fun c => c == 'a' || c == 'u' || c == 't' || on.contains c) ∧
        !on.contains 't' then some (.scoped on off, after)
    else none

/-- The flags after `(?`. -/
def readFlags? (rest : List Symbol) : Option (FlagChange × List Symbol) :=
  (readLetters? rest).bind fun (on, stop, after) =>
    if !compatible on then none
    else if stop = '-' then readOff? on after
    else if on = [] then none
    else if stop = ')' then some (.whole on, after)
    else if stop = ':' ∧ !on.contains 't' then some (.scoped on [], after)
    else none

end Pattern
end QueryCriteria
