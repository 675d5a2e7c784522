/-!
Literals between delimiters.  A backslash takes the next character with it, so an
escaped delimiter does not close the literal.
-/
namespace QueryCriteria
namespace Literal

/-- The text up to the first unescaped delimiter, escapes kept, and the text after it. -/
def spanTo? (stop : Char) : List Char → Option (List Char × List Char)
  | [] => none
  | ['\\'] => none
  | '\\' :: c :: cs => (spanTo? stop cs).map fun (inner, rest) => ('\\' :: c :: inner, rest)
  | c :: cs =>
    if c = stop then some ([], cs)
    else (spanTo? stop cs).map fun (inner, rest) => (c :: inner, rest)

/-- Nothing but the delimiter is lost. -/
theorem append_of_spanTo? {stop : Char} {cs : List Char} :
    ∀ {found}, spanTo? stop cs = some found → found.1 ++ stop :: found.2 = cs := by
  fun_induction spanTo? stop cs with
  | case1 => intro _ h; cases h
  | case2 => intro _ h; cases h
  | case3 c cs ih =>
    intro found h
    obtain ⟨inner, hs, rfl⟩ := Option.map_eq_some_iff.1 h
    simp [ih hs]
  | case4 cs =>
    intro found h
    cases h
    simp
  | case5 c cs _ _ _ ih =>
    intro found h
    obtain ⟨inner, hs, rfl⟩ := Option.map_eq_some_iff.1 h
    simp [ih hs]

/-- The text without the backslashes that escape. -/
def unescape : List Char → List Char
  | '\\' :: c :: cs => c :: unescape cs
  | c :: cs => c :: unescape cs
  | [] => []

/-- The text of a literal in double or single quotes. -/
def readQuoted? : List Char → Option (List Char)
  | quote :: cs =>
    if quote = '"' ∨ quote = '\'' then
      match spanTo? quote cs with
      | some (inner, []) => some (unescape inner)
      | _ => none
    else none
  | [] => none

/-- The pattern of a literal between slashes and whether an `i` follows it.  The last
slash closes the literal, so the pattern may hold slashes. -/
def readRegex? : List Char → Option (List Char × Bool)
  | '/' :: cs =>
    match cs.reverse with
    | '/' :: pattern => some (pattern.reverse, false)
    | 'i' :: '/' :: pattern => some (pattern.reverse, true)
    | _ => none
  | _ => none

end Literal
end QueryCriteria
