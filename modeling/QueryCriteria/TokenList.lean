import QueryCriteria.Coercion
import QueryCriteria.Text.Quoted

/-!
Comma-separated lists of tokens.  A comma inside a quoted text or a regular expression
does not separate, provided that the literal ends at a comma or at the end of the list.
Empty tokens are left out.
-/
namespace QueryCriteria
namespace TokenList

/-- Where a literal may end: before a comma, at the end, or before a last line break. -/
def endsToken (rest : List Char) : Bool :=
  rest = [] ∨ rest = ['\n'] ∨ rest.head? = some ','

/-- A regular expression may have an `i` after its closing slash. -/
def spanFlag : List Char → List Char × List Char
  | 'i' :: cs => (['i'], cs)
  | cs => ([], cs)

/-- A quoted text or a regular expression as it is written, and the text after it. -/
def spanDelimited? : List Char → Option (List Char × List Char)
  | [] => none
  | c :: cs =>
    if c = '"' ∨ c = '\'' then
      (Literal.spanTo? c cs).map fun (inner, rest) => (c :: (inner ++ [c]), rest)
    else if c = '/' then
      (Literal.spanTo? c cs).map fun (inner, rest) =>
        (c :: (inner ++ c :: (spanFlag rest).1), (spanFlag rest).2)
    else none

/-- The same with an optional exclamation mark, where it can be a whole token. -/
def spanLiteral? (cs : List Char) : Option (List Char × List Char) :=
  let found : Option (List Char × List Char) :=
    match cs with
    | '!' :: cs => (spanDelimited? cs).map fun (literal, rest) => ('!' :: literal, rest)
    | cs => spanDelimited? cs
  found.filter fun literal => endsToken literal.2

/-- The token that a text starts with: a literal, or everything up to the next comma.
At a comma it is empty. -/
def spanToken (cs : List Char) : List Char × List Char :=
  match spanLiteral? cs with
  | some found => found
  | none => (cs.takeWhile (· ≠ ','), cs.dropWhile (· ≠ ','))

theorem append_spanFlag (cs : List Char) : (spanFlag cs).1 ++ (spanFlag cs).2 = cs := by
  unfold spanFlag
  split <;> simp

theorem append_of_spanDelimited? {cs : List Char} {found : List Char × List Char}
    (h : spanDelimited? cs = some found) : found.1 ++ found.2 = cs := by
  cases cs with
  | nil => cases h
  | cons c cs =>
    simp only [spanDelimited?] at h
    split at h
    · obtain ⟨inner, hs, rfl⟩ := Option.map_eq_some_iff.1 h
      simp [← Literal.append_of_spanTo? hs]
    · split at h
      · obtain ⟨inner, hs, rfl⟩ := Option.map_eq_some_iff.1 h
        simp [append_spanFlag, ← Literal.append_of_spanTo? hs]
      · cases h

theorem append_of_spanLiteral? {cs : List Char} {found : List Char × List Char}
    (h : spanLiteral? cs = some found) : found.1 ++ found.2 = cs := by
  unfold spanLiteral? at h
  obtain ⟨h, _⟩ := Option.filter_eq_some_iff.1 h
  split at h
  · obtain ⟨inner, hs, rfl⟩ := Option.map_eq_some_iff.1 h
    simp [append_of_spanDelimited? hs]
  · exact append_of_spanDelimited? h

/-- A token and the text after it make up the text. -/
theorem append_spanToken (cs : List Char) : (spanToken cs).1 ++ (spanToken cs).2 = cs := by
  unfold spanToken
  split
  · next h => exact append_of_spanLiteral? h
  · exact List.takeWhile_append_dropWhile

theorem length_spanToken (cs : List Char) : (spanToken cs).2.length ≤ cs.length := by
  have := congrArg List.length (append_spanToken cs)
  simp only [List.length_append] at this
  omega

/-- The tokens of a list as they are written.  After a token one character is skipped,
which is the comma after it if the list goes on. -/
def split : List Char → List (List Char)
  | [] => []
  | c :: cs =>
    if c = ',' then split cs
    else (spanToken (c :: cs)).1 :: split ((spanToken (c :: cs)).2.drop 1)
termination_by cs => cs.length
decreasing_by
  · simp
  · have := length_spanToken (c :: cs)
    simp only [List.length_drop, List.length_cons] at this ⊢
    omega

/-- The tokens of a list, typed. -/
def tokens (switches : Switches) (raw : String) : Except Fault (List Token) :=
  (split raw.toList).mapM fun token => switches.token (String.ofList token)

/-- How a list shows itself: by its kind and the text that it was made from. -/
def display (raw : List Char) : List Char :=
  "ValueList(".toList ++ Text.quoted raw ++ [')']

end TokenList
end QueryCriteria
