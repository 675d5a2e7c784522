import QueryCriteria.Literal.Delimited
import QueryCriteria.Regex

/-!
Writing literals between delimiters.  What stands between two delimiters is a text in which every
delimiter is escaped: `Enclosed` says so without a reader, and the reader accepts exactly such
texts.  A text in quotes is read back once its quotes and backslashes are escaped, and a pattern
between slashes is read back as it is, provided that it holds no slash by itself.
-/
namespace QueryCriteria
namespace Literal

/-! ### Up to a delimiter -/

/-- What may stand between two delimiters: no delimiter and no backslash, but any character after a
backslash. -/
inductive Enclosed (stop : Char) : List Char → Prop where
  | nil : Enclosed stop []
  | plain {c : Char} {cs : List Char} : c ≠ stop → c ≠ '\\' → Enclosed stop cs →
      Enclosed stop (c :: cs)
  | escaped {c : Char} {cs : List Char} : Enclosed stop cs → Enclosed stop ('\\' :: c :: cs)

theorem spanTo?_stop {stop : Char} (h : stop ≠ '\\') (cs : List Char) :
    spanTo? stop (stop :: cs) = some ([], cs) := by
  rw [spanTo?]
  · rw [if_pos rfl]
  · rintro h' rfl
    exact h h'
  · intro c rest h'
    exact absurd h' h

theorem spanTo?_cons {stop c : Char} (hs : c ≠ stop) (hb : c ≠ '\\') (cs : List Char) :
    spanTo? stop (c :: cs) = (spanTo? stop cs).map fun (inner, rest) => (c :: inner, rest) := by
  rw [spanTo?]
  · rw [if_neg hs]
  · rintro h' rfl
    exact hb h'
  · intro d rest h'
    exact absurd h' hb

theorem spanTo?_backslash (stop c : Char) (cs : List Char) :
    spanTo? stop ('\\' :: c :: cs) =
      (spanTo? stop cs).map fun (inner, rest) => ('\\' :: c :: inner, rest) := by
  rw [spanTo?]

/-- A backslash takes the next character with it, so one that is read by itself is none. -/
theorem ne_backslash {c : Char} {cs : List Char} (hlone : c = '\\' → cs = [] → False)
    (hescape : ∀ d rest, c = '\\' → cs = d :: rest → False) : c ≠ '\\' := by
  intro hc
  cases cs with
  | nil => exact hlone hc rfl
  | cons d rest => exact hescape d rest hc rfl

theorem Enclosed.spanTo? {stop : Char} {inner : List Char} (h : Enclosed stop inner)
    (hstop : stop ≠ '\\') (rest : List Char) :
    spanTo? stop (inner ++ stop :: rest) = some (inner, rest) := by
  induction h with
  | nil => exact spanTo?_stop hstop rest
  | plain hne hplain _ ih =>
    rw [List.cons_append, spanTo?_cons hne hplain, ih]
    rfl
  | escaped _ ih =>
    rw [List.cons_append, List.cons_append, spanTo?_backslash, ih]
    rfl

theorem enclosed_of_spanTo? {stop : Char} {cs inner rest : List Char}
    (h : spanTo? stop cs = some (inner, rest)) : Enclosed stop inner := by
  fun_induction spanTo? stop cs generalizing inner with
  | case1 => cases h
  | case2 => cases h
  | case3 c cs ih =>
    obtain ⟨⟨inner', rest'⟩, hspan, hfound⟩ := Option.map_eq_some_iff.1 h
    obtain ⟨rfl, rfl⟩ := Prod.mk.inj hfound
    exact .escaped (ih hspan)
  | case4 cs =>
    obtain ⟨rfl, -⟩ := Prod.mk.inj (Option.some.inj h)
    exact .nil
  | case5 c cs hlone hescape hne ih =>
    obtain ⟨⟨inner', rest'⟩, hspan, hfound⟩ := Option.map_eq_some_iff.1 h
    obtain ⟨rfl, rfl⟩ := Prod.mk.inj hfound
    exact .plain hne (ne_backslash hlone hescape) (ih hspan)

/-- A delimiter that no backslash stands before closes the literal, if it is not closed yet. -/
theorem suffix_of_spanTo? {stop c : Char} (hstop : stop ≠ '\\') (hc : c ≠ '\\')
    (before after : List Char) :
    ∃ inner rest, spanTo? stop (before ++ c :: stop :: after) = some (inner, rest) ∧
      after <:+ rest := by
  fun_induction spanTo? stop before with
  | case1 =>
    by_cases h : c = stop
    · subst h
      exact ⟨[], c :: after, spanTo?_stop hstop _, List.suffix_cons _ _⟩
    · refine ⟨[c], after, ?_, List.suffix_rfl⟩
      rw [List.nil_append, spanTo?_cons h hc, spanTo?_stop hstop]
      rfl
  | case2 =>
    refine ⟨['\\', c], after, ?_, List.suffix_rfl⟩
    rw [List.singleton_append, spanTo?_backslash, spanTo?_stop hstop]
    rfl
  | case3 d before ih =>
    obtain ⟨inner, rest, hspan, hsuffix⟩ := ih
    refine ⟨'\\' :: d :: inner, rest, ?_, hsuffix⟩
    rw [List.cons_append, List.cons_append, spanTo?_backslash, hspan]
    rfl
  | case4 before h1 h2 =>
    refine ⟨[], before ++ c :: stop :: after, ?_, ?_⟩
    · exact spanTo?_stop hstop _
    · exact ⟨before ++ [c, stop], by rw [List.append_assoc]; rfl⟩
  | case5 d before h1 h2 hne ih =>
    obtain ⟨inner, rest, hspan, hsuffix⟩ := ih
    refine ⟨d :: inner, rest, ?_, hsuffix⟩
    rw [List.cons_append, spanTo?_cons hne (ne_backslash h1 h2), hspan]
    rfl

/-! ### Quoted texts -/

def escapeChar (quote c : Char) : List Char := if c = quote ∨ c = '\\' then ['\\', c] else [c]

/-- A text with a backslash before every quote and every backslash. -/
def escaped (quote : Char) (cs : List Char) : List Char := cs.flatMap (escapeChar quote)

def enquoted (quote : Char) (cs : List Char) : List Char := quote :: (escaped quote cs ++ [quote])

theorem escaped_cons (quote c : Char) (cs : List Char) :
    escaped quote (c :: cs) = escapeChar quote c ++ escaped quote cs := List.flatMap_cons

theorem quote_ne_backslash {quote : Char} (h : quote = '"' ∨ quote = '\'') : quote ≠ '\\' := by
  rcases h with rfl | rfl <;> decide

theorem unescape_cons {c : Char} (h : c ≠ '\\') (cs : List Char) :
    unescape (c :: cs) = c :: unescape cs := by
  rw [unescape]
  intro d rest h'
  exact absurd h' h

theorem enclosed_escaped (quote : Char) (cs : List Char) : Enclosed quote (escaped quote cs) := by
  induction cs with
  | nil => exact .nil
  | cons c cs ih =>
    rw [escaped_cons, escapeChar]
    split
    · exact .escaped ih
    · next h =>
      rw [not_or] at h
      exact .plain h.1 h.2 ih

theorem unescape_escaped (quote : Char) (cs : List Char) : unescape (escaped quote cs) = cs := by
  induction cs with
  | nil => rfl
  | cons c cs ih =>
    rw [escaped_cons, escapeChar]
    split
    · show unescape ('\\' :: c :: escaped quote cs) = _
      rw [unescape, ih]
    · next h =>
      rw [not_or] at h
      show unescape (c :: escaped quote cs) = _
      rw [unescape_cons h.2, ih]

theorem readQuoted?_enquoted {quote : Char} (h : quote = '"' ∨ quote = '\'') (cs : List Char) :
    readQuoted? (enquoted quote cs) = some cs := by
  have hspan := (enclosed_escaped quote cs).spanTo? (quote_ne_backslash h) []
  rw [enquoted, readQuoted?, if_pos h, hspan]
  exact congrArg some (unescape_escaped quote cs)

/-! ### Patterns -/

/-- Whether a delimiter stands in a text without a backslash before it. -/
def hasBare (stop : Char) : List Char → Bool
  | [] => false
  | '\\' :: _ :: cs => hasBare stop cs
  | c :: cs => c == stop || hasBare stop cs

/-- A pattern between slashes, with an `i` after it where case does not matter. -/
def slashed (pattern : List Char) (ignoreCase : Bool) : List Char :=
  '/' :: (pattern ++ '/' :: if ignoreCase then ['i'] else [])

theorem readRegex?_slashed (pattern : List Char) (ignoreCase : Bool) :
    readRegex? (slashed pattern ignoreCase) = some (pattern, ignoreCase) := by
  cases ignoreCase <;> simp [slashed, readRegex?]

theorem enclosed_of_hasBare {pattern : List Char} {symbols : List Pattern.Symbol}
    (h : Pattern.symbols? pattern = some symbols) (hb : hasBare '/' pattern = false) :
    Enclosed '/' pattern := by
  fun_induction Pattern.symbols? pattern generalizing symbols with
  | case1 => exact .nil
  | case2 c cs ih =>
    obtain ⟨inner, hs, -⟩ := Option.map_eq_some_iff.1 h
    rw [hasBare] at hb
    exact .escaped (ih hs hb)
  | case3 => cases h
  | case4 c cs h1 h2 ih =>
    obtain ⟨inner, hs, -⟩ := Option.map_eq_some_iff.1 h
    have hc : c ≠ '\\' := ne_backslash h2 h1
    rw [hasBare, Bool.or_eq_false_iff, beq_eq_false_iff_ne] at hb
    · exact .plain hb.1 hc (ih hs hb.2)
    · intro d rest h'
      exact absurd h' hc

end Literal

namespace Regex

theorem symbols?_of_compile {pattern : List Char} {ignoreCase : Bool} {r : Regex}
    (h : compile pattern ignoreCase = .ok (some r)) :
    ∃ symbols, Pattern.symbols? pattern = some symbols := by
  unfold compile Pattern.read? at h
  cases hs : Pattern.symbols? pattern with
  | none =>
    rw [hs] at h
    cases h
  | some symbols => exact ⟨symbols, rfl⟩

end Regex
end QueryCriteria
