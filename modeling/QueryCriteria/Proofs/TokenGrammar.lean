import QueryCriteria.Proofs.TokenList
import QueryCriteria.Proofs.TypedLiteral

/-!
The tokens that a list can be split into.  A token is a literal between delimiters or has no comma,
and tokens that are written in one of these two ways are found again when they are joined.
-/
namespace QueryCriteria
namespace TokenList

/-- A token without the exclamation mark before it, of which there is at most one. -/
def unmarked : List Char → List Char
  | '!' :: cs => cs
  | cs => cs

/-- A token as it can be written in a list: a literal, or a text without a comma that no delimiter
starts.  An exclamation mark may stand before either. -/
inductive IsToken (token : List Char) : Prop where
  | literal : IsDelimited (unmarked token) → IsToken token
  | plain : token ≠ [] → ',' ∉ token →
      (∀ c ∈ (unmarked token).head?, c ≠ '"' ∧ c ≠ '\'' ∧ c ≠ '/') → IsToken token

/-- A text is taken for a quoted text or for a regular expression as a whole, from its first
character to its last. -/
def IsTypedWhole (text : List Char) : Prop :=
  Text.dropFinalNewline text = text ∧
    ((∃ value, Literal.readQuoted? text = some value) ∨
      ∃ pattern ignoreCase, Literal.readRegex? text = some (pattern, ignoreCase) ∧
        text = Literal.slashed pattern ignoreCase)

variable {cs token literal rest : List Char}

/-! ### Literals -/

theorem IsDelimited.isTypedWhole (h : IsDelimited token) : IsTypedWhole token := by
  cases h with
  | @quoted quote inner hquote hinner =>
    have hnewline : quote ≠ '\n' := by
      rcases hquote with rfl | rfl <;> decide
    refine ⟨Text.dropFinalNewline_append (quote :: inner) hnewline, .inl ?_⟩
    refine ⟨Literal.unescape inner, ?_⟩
    rw [Literal.readQuoted?, if_pos hquote, hinner.spanTo? (Literal.quote_ne_backslash hquote)]
  | @slashed body ignoreCase hbody =>
    refine ⟨?_, .inr ⟨body, ignoreCase, Literal.readRegex?_slashed body ignoreCase, rfl⟩⟩
    cases ignoreCase with
    | false => exact Text.dropFinalNewline_append ('/' :: body) (by decide)
    | true =>
      have htext : Literal.slashed body true = '/' :: (body ++ ['/']) ++ ['i'] := by
        simp [Literal.slashed]
      rw [htext]
      exact Text.dropFinalNewline_append _ (by decide)

theorem unmarked_cons {c : Char} (h : c ≠ '!') : unmarked (c :: cs) = c :: cs := by
  unfold unmarked
  split
  · next hcons => exact absurd (List.cons.inj hcons).1 h
  · rfl

theorem IsDelimited.unmarked (h : IsDelimited token) : unmarked token = token := by
  obtain ⟨c, cs, rfl⟩ := List.exists_cons_of_ne_nil h.isLiteral.nonempty
  exact unmarked_cons (h.isLiteral.starts c rfl).2

theorem isDelimited_of_spanDelimited? (h : spanDelimited? cs = some (literal, rest)) :
    IsDelimited literal := by
  cases cs with
  | nil => cases h
  | cons c cs =>
    rw [spanDelimited?] at h
    split at h
    · next hquote =>
      obtain ⟨⟨inner, after⟩, hspan, hfound⟩ := Option.map_eq_some_iff.1 h
      obtain ⟨rfl, -⟩ := Prod.mk.inj hfound
      exact .quoted hquote (Literal.enclosed_of_spanTo? hspan)
    · split at h
      · next hslash =>
        subst hslash
        obtain ⟨⟨body, after⟩, hspan, hfound⟩ := Option.map_eq_some_iff.1 h
        obtain ⟨rfl, -⟩ := Prod.mk.inj hfound
        have hbody := Literal.enclosed_of_spanTo? hspan
        unfold spanFlag
        split
        · exact .slashed true hbody
        · exact .slashed false hbody
      · cases h

theorem isDelimited_of_spanLiteral? (h : spanLiteral? cs = some (literal, rest)) :
    IsDelimited (unmarked literal) := by
  unfold spanLiteral? at h
  obtain ⟨hfound, -⟩ := Option.filter_eq_some_iff.1 h
  split at hfound
  · obtain ⟨⟨inner, after⟩, hspan, hpair⟩ := Option.map_eq_some_iff.1 hfound
    obtain ⟨rfl, -⟩ := Prod.mk.inj hpair
    exact isDelimited_of_spanDelimited? hspan
  -- no delimiter is an exclamation mark, so there is none to take off
  · have hdelimited := isDelimited_of_spanDelimited? hfound
    rwa [hdelimited.unmarked]

/-! ### Tokens that are joined -/

theorem spanDelimited?_of_head (h : ∀ c ∈ cs.head?, c ≠ '"' ∧ c ≠ '\'' ∧ c ≠ '/') :
    spanDelimited? cs = none := by
  cases cs with
  | nil => rfl
  | cons c cs =>
    obtain ⟨hdouble, hsingle, hslash⟩ := h c rfl
    rw [spanDelimited?, if_neg (not_or.2 ⟨hdouble, hsingle⟩), if_neg hslash]

/-- A text that starts no literal starts none either where a list goes on after it. -/
theorem spanDelimited?_append (h : ∀ c ∈ cs.head?, c ≠ '"' ∧ c ≠ '\'' ∧ c ≠ '/')
    (hr : Closes rest) : spanDelimited? (cs ++ rest) = none := by
  refine spanDelimited?_of_head fun c hc => ?_
  cases cs with
  | nil =>
    rw [hr c hc]
    decide
  | cons d cs => exact h c hc

theorem standalone_plain (hne : token ≠ []) (hcomma : ',' ∉ token)
    (hs : ∀ c ∈ (unmarked token).head?, c ≠ '"' ∧ c ≠ '\'' ∧ c ≠ '/') : Standalone token := by
  refine ⟨hne, fun c hc => ?_, fun rest hr => spanToken_of_plain ?_ hcomma hr⟩
  · rintro rfl
    exact hcomma (List.mem_of_mem_head? hc)
  · obtain ⟨c, cs, rfl⟩ := List.exists_cons_of_ne_nil hne
    by_cases hmark : c = '!'
    -- after a lone exclamation mark comes the rest of the list, which starts no literal
    · subst hmark
      have hnone : spanDelimited? (cs ++ rest) = none := spanDelimited?_append hs hr
      rw [List.cons_append, spanLiteral?_marked, hnone]
      rfl
    · rw [unmarked_cons hmark] at hs
      have hnone := spanDelimited?_append hs hr
      rw [List.cons_append] at hnone ⊢
      rw [spanLiteral?_unmarked hmark, hnone]
      rfl

theorem IsToken.standalone (h : IsToken token) : Standalone token := by
  cases h with
  | literal hliteral =>
    cases token with
    | nil => exact hliteral.isLiteral.standalone
    | cons c cs =>
      by_cases hmark : c = '!'
      · subst hmark
        exact hliteral.isLiteral.standalone_marked
      · rw [unmarked_cons hmark] at hliteral
        exact hliteral.isLiteral.standalone
  | plain hne hcomma hs => exact standalone_plain hne hcomma hs

/-! ### Tokens that are found -/

theorem exists_spanToken_of_mem_split {raw : List Char} (h : token ∈ split raw) :
    ∃ c cs, c ≠ ',' ∧ token = (spanToken (c :: cs)).1 := by
  fun_induction split raw with
  | case1 => cases h
  | case2 cs ih => exact ih h
  | case3 c cs hcomma ih =>
    rcases List.mem_cons.1 h with rfl | h
    · exact ⟨c, cs, hcomma, rfl⟩
    · exact ih h

/-- A token is a literal or has no comma. -/
theorem shape_of_spanToken {c : Char} (hc : c ≠ ',') :
    (spanToken (c :: cs)).1 ≠ [] ∧
      (',' ∉ (spanToken (c :: cs)).1 ∨ IsDelimited (unmarked (spanToken (c :: cs)).1)) := by
  rw [spanToken]
  split
  · next found hfound =>
    have hdelimited := isDelimited_of_spanLiteral? hfound
    refine ⟨?_, .inr hdelimited⟩
    rintro hnil
    rw [hnil] at hdelimited
    exact hdelimited.isLiteral.nonempty rfl
  · refine ⟨?_, .inl fun hcomma => ?_⟩
    · show List.takeWhile (· ≠ ',') (c :: cs) ≠ []
      rw [List.takeWhile_cons, if_pos (decide_eq_true hc)]
      exact List.cons_ne_nil _ _
    · exact absurd (List.mem_takeWhile_imp hcomma) (by decide)

/-- Splitting finds the tokens that were joined, and every token that it finds is not empty and
has a comma only if it is a literal, which typing then takes as a whole. -/
theorem split_joined_and_shape :
    (∀ tokens, (∀ token ∈ tokens, IsToken token) → split (Text.joinWith ',' tokens) = tokens) ∧
    ∀ raw, ∀ token ∈ split raw, token ≠ [] ∧
      (',' ∉ token ∨ IsDelimited (unmarked token) ∧ IsTypedWhole (unmarked token)) := by
  constructor
  · intro tokens h
    exact split_joinWith fun token ht => (h token ht).standalone
  · intro raw token h
    obtain ⟨c, cs, hc, rfl⟩ := exists_spanToken_of_mem_split h
    obtain ⟨hne, hshape⟩ := @shape_of_spanToken cs c hc
    exact ⟨hne, hshape.imp id fun hdelimited => ⟨hdelimited, hdelimited.isTypedWhole⟩⟩

theorem split_joined_three :
    split "!'a,\\',b',!c,/d,e/i".toList =
        ["!'a,\\',b'".toList, "!c".toList, "/d,e/i".toList] ∧
      IsDelimited "'a,\\',b'".toList ∧ IsTypedWhole "'a,\\',b'".toList := by
  have hquote : Literal.spanTo? '\'' "a,\\',b'".toList = some ("a,\\',b".toList, []) := by decide
  have hslash : Literal.spanTo? '/' "d,e/".toList = some ("d,e".toList, []) := by decide
  have htokens : ∀ token ∈ ["!'a,\\',b'".toList, "!c".toList, "/d,e/i".toList], IsToken token := by
    simp only [List.forall_mem_cons]
    refine ⟨.literal (.quoted (.inr rfl) (Literal.enclosed_of_spanTo? hquote)),
      .plain (by decide) (by decide) fun c hc => ?_,
      .literal (.slashed true (Literal.enclosed_of_spanTo? hslash)), nofun⟩
    rw [← Option.some.inj hc]
    decide
  have hsplit := split_joined_and_shape.1 _ htokens
  have hmem : "!'a,\\',b'".toList ∈ split "!'a,\\',b',!c,/d,e/i".toList :=
    hsplit.symm ▸ List.mem_cons_self
  exact ⟨hsplit, (split_joined_and_shape.2 _ _ hmem).2.resolve_left (by decide)⟩

end TokenList
end QueryCriteria
