import QueryCriteria.Proofs.DelimitedLiteral
import QueryCriteria.Proofs.Segment
import QueryCriteria.TokenList
import Mathlib.Data.List.TakeWhile

/-!
Splitting a list of tokens finds the tokens that were joined, provided that none of them is
empty or holds a comma outside a literal.  `Standalone` is what the splitter needs to know
of a token: it is spanned as a whole, whatever list goes on after it.
-/
namespace QueryCriteria
namespace TokenList

open Literal

/-- Where a list may go on after a token: at its end or at a comma. -/
def Closes (rest : List Char) : Prop := ∀ c ∈ rest.head?, c = ','

theorem closes_nil : Closes [] := by
  intro c hc
  cases hc

theorem closes_comma (cs : List Char) : Closes (',' :: cs) := by
  intro c hc
  exact (Option.some.inj hc).symm

theorem endsToken_of_closes {rest : List Char} (h : Closes rest) : endsToken rest = true := by
  cases rest with
  | nil => rfl
  | cons c rest =>
    have hc : c = ',' := h c rfl
    rw [hc, endsToken]
    exact decide_eq_true (.inr (.inr rfl))

structure Standalone (token : List Char) : Prop where
  nonempty : token ≠ []
  starts : ∀ c ∈ token.head?, c ≠ ','
  spans : ∀ rest, Closes rest → spanToken (token ++ rest) = (token, rest)

theorem split_cons {token rest : List Char} (h : Standalone token) (hr : Closes rest) :
    split (token ++ rest) = token :: split (rest.drop 1) := by
  have hspan := h.spans rest hr
  obtain ⟨c, cs, rfl⟩ := List.exists_cons_of_ne_nil h.nonempty
  have hc : c ≠ ',' := h.starts c rfl
  rw [List.cons_append] at hspan ⊢
  rw [split, if_neg hc, hspan]

/-- A token by itself is a list. -/
theorem split_of_standalone {token : List Char} (h : Standalone token) : split token = [token] := by
  have hsplit := split_cons h closes_nil
  rw [List.append_nil] at hsplit
  rw [hsplit, List.drop_nil, split]

/-- Joined tokens are found again. -/
theorem split_joinWith {tokens : List (List Char)} (h : ∀ token ∈ tokens, Standalone token) :
    split (Text.joinWith ',' tokens) = tokens := by
  fun_induction Text.joinWith ',' tokens with
  | case1 => rw [split]
  | case2 token =>
    have hsplit := split_cons (h token List.mem_cons_self) closes_nil
    rw [List.append_nil] at hsplit
    rw [hsplit, List.drop_nil, split]
  | case3 token next tokens ih =>
    rw [split_cons (h token List.mem_cons_self) (closes_comma _), List.drop_succ_cons,
      List.drop_zero, ih fun other ho => h other (List.mem_cons_of_mem _ ho)]

/-- A token ends at the end of the list or at a comma, and a literal also before a last line
break. -/
theorem cases_of_spanToken {cs token rest : List Char} (h : spanToken cs = (token, rest)) :
    rest = [] ∨ (∃ after, rest = ',' :: after) ∨
      rest = ['\n'] ∧ spanLiteral? cs = some (token, rest) := by
  rw [spanToken] at h
  split at h
  · next found hfound =>
    subst h
    obtain ⟨-, hends⟩ := Option.filter_eq_some_iff.1 hfound
    rw [endsToken, decide_eq_true_eq] at hends
    rcases hends with hnil | hline | hcomma
    · exact .inl hnil
    · exact .inr (.inr ⟨hline, hfound⟩)
    · exact .inr (.inl (List.head?_eq_some_iff.1 hcomma))
  · have hdrop := List.head?_dropWhile_not (· ≠ ',') cs
    rw [(Prod.mk.inj h).2] at hdrop
    cases rest with
    | nil => exact .inl rfl
    | cons c after =>
      have hc : c = ',' := by simpa using hdrop
      exact .inr (.inl ⟨after, by rw [hc]⟩)

/-- The character after a token is a comma, unless it is a last line break. -/
theorem next_of_spanToken {cs token rest : List Char} {c : Char}
    (h : spanToken cs = (token, c :: rest)) : c = ',' ∨ rest = [] := by
  rcases cases_of_spanToken h with hnil | ⟨after, hcomma⟩ | ⟨hline, -⟩
  · cases hnil
  · exact .inl (List.cons.inj hcomma).1
  · exact .inr (List.cons.inj hline).2

/-- Every token but the first comes right after a comma. -/
theorem exists_append_of_mem_split {cs token : List Char} (h : token ∈ split cs) :
    ∃ before after, before ++ token ++ after = cs ∧
      (before = [] ∨ ∃ earlier, before = earlier ++ [',']) := by
  fun_induction split cs with
  | case1 => cases h
  | case2 cs ih =>
    obtain ⟨before, after, happend, hbefore⟩ := ih h
    refine ⟨',' :: before, after, congrArg (',' :: ·) happend, .inr ?_⟩
    rcases hbefore with rfl | ⟨earlier, rfl⟩
    · exact ⟨[], rfl⟩
    · exact ⟨',' :: earlier, rfl⟩
  | case3 c cs _ ih =>
    have hspan := append_spanToken (c :: cs)
    rcases List.mem_cons.1 h with rfl | h
    · exact ⟨[], (spanToken (c :: cs)).2, hspan, .inl rfl⟩
    · obtain ⟨before, after, happend, hbefore⟩ := ih h
      cases hrest : (spanToken (c :: cs)).2 with
      | nil =>
        rw [hrest, List.drop_nil, split] at h
        cases h
      | cons d rest =>
        rw [hrest, List.drop_succ_cons, List.drop_zero] at h happend
        have hnext : d = ',' ∨ rest = [] := next_of_spanToken (Prod.ext rfl hrest)
        rcases hnext with rfl | rfl
        · refine ⟨(spanToken (c :: cs)).1 ++ ',' :: before, after, ?_, .inr ?_⟩
          · refine Eq.trans ?_ hspan
            rw [hrest, ← happend]
            simp
          · rcases hbefore with rfl | ⟨earlier, rfl⟩
            · exact ⟨_, rfl⟩
            · exact ⟨(spanToken (c :: cs)).1 ++ ',' :: earlier, by simp⟩
        · rw [split] at h
          cases h

/-- Tokens stand in the text that they are split from. -/
theorem infix_of_mem_split {cs token : List Char} (h : token ∈ split cs) : token <:+: cs := by
  obtain ⟨before, after, happend, -⟩ := exists_append_of_mem_split h
  exact ⟨before, after, happend⟩

/-! ### Literals as tokens -/

/-- A literal that is delimited as a whole, or one without a comma that no delimiter starts. -/
structure IsLiteral (token : List Char) : Prop where
  nonempty : token ≠ []
  starts : ∀ c ∈ token.head?, c ≠ ',' ∧ c ≠ '!'
  spans : (∀ rest, Closes rest → spanDelimited? (token ++ rest) = some (token, rest)) ∨
    (',' ∉ token ∧ ∀ rest, spanDelimited? (token ++ rest) = none)

theorem spanToken_of_plain {token rest : List Char} (hnone : spanLiteral? (token ++ rest) = none)
    (hcomma : ',' ∉ token) (hr : Closes rest) : spanToken (token ++ rest) = (token, rest) := by
  have htoken : ∀ c ∈ token, decide (c ≠ ',') = true := by
    intro c hc
    refine decide_eq_true ?_
    rintro rfl
    exact hcomma hc
  have hrest : ∀ c ∈ rest.head?, decide (c ≠ ',') = false := by
    intro c hc
    exact decide_eq_false (not_not_intro (hr c hc))
  rw [spanToken, hnone]
  show ((token ++ rest).takeWhile _, (token ++ rest).dropWhile _) = _
  rw [Text.takeWhile_run htoken hrest, Text.dropWhile_run htoken hrest]

theorem spanToken_of_literal {token rest : List Char}
    (hsome : spanLiteral? (token ++ rest) = some (token, rest)) :
    spanToken (token ++ rest) = (token, rest) := by
  rw [spanToken, hsome]

theorem spanLiteral?_marked (cs : List Char) :
    spanLiteral? ('!' :: cs) =
      ((spanDelimited? cs).map fun (literal, rest) => ('!' :: literal, rest)).filter
        fun literal => endsToken literal.2 := by
  rw [spanLiteral?]

theorem spanLiteral?_unmarked {c : Char} (h : c ≠ '!') (cs : List Char) :
    spanLiteral? (c :: cs) =
      (spanDelimited? (c :: cs)).filter fun literal => endsToken literal.2 := by
  rw [spanLiteral?]
  intro rest heq
  injection heq with hc
  exact h hc

theorem spanLiteral?_cons_mark {cs : List Char} (h : ∀ c ∈ cs.head?, c ≠ '!') :
    spanLiteral? ('!' :: cs) =
      (spanLiteral? cs).map fun (literal, rest) => ('!' :: literal, rest) := by
  have hcs : spanLiteral? cs = (spanDelimited? cs).filter fun literal => endsToken literal.2 := by
    cases cs with
    | nil => rfl
    | cons c cs => exact spanLiteral?_unmarked (h c rfl) cs
  rw [spanLiteral?_marked, hcs]
  cases spanDelimited? cs with
  | none => rfl
  | some found =>
    cases hends : endsToken found.2 <;> simp [Option.filter, hends]

theorem IsLiteral.standalone {token : List Char} (h : IsLiteral token) : Standalone token where
  nonempty := h.nonempty
  starts c hc := (h.starts c hc).1
  spans rest hr := by
    obtain ⟨c, cs, rfl⟩ := List.exists_cons_of_ne_nil h.nonempty
    have hc : c ≠ '!' := (h.starts c rfl).2
    have hspan := spanLiteral?_unmarked hc (cs ++ rest)
    rcases h.spans with hs | ⟨hcomma, hs⟩
    · refine spanToken_of_literal ?_
      rw [List.cons_append, hspan, ← List.cons_append, hs rest hr]
      exact Option.filter_some_pos (endsToken_of_closes hr)
    · refine spanToken_of_plain ?_ hcomma hr
      rw [List.cons_append, hspan, ← List.cons_append, hs rest]
      rfl

/-- An exclamation mark belongs to the token that it stands before. -/
theorem IsLiteral.standalone_marked {token : List Char} (h : IsLiteral token) :
    Standalone ('!' :: token) where
  nonempty := List.cons_ne_nil _ _
  starts c hc := by
    rw [← Option.some.inj hc]
    decide
  spans rest hr := by
    have hspan := spanLiteral?_marked (token ++ rest)
    rcases h.spans with hs | ⟨hcomma, hs⟩
    · refine spanToken_of_literal ?_
      rw [List.cons_append, hspan, hs rest hr]
      exact Option.filter_some_pos (endsToken_of_closes hr)
    · refine spanToken_of_plain ?_ ?_ hr
      · rw [List.cons_append, hspan, hs rest]
        rfl
      · intro hm
        rcases List.mem_cons.1 hm with hm | hm
        · exact absurd hm (by decide)
        · exact hcomma hm

theorem isLiteral_plain {token : List Char} (hne : token ≠ [])
    (hs : ∀ c ∈ token.head?, c ≠ '!' ∧ c ≠ '"' ∧ c ≠ '\'' ∧ c ≠ '/') (hcomma : ',' ∉ token) :
    IsLiteral token := by
  obtain ⟨c, cs, rfl⟩ := List.exists_cons_of_ne_nil hne
  obtain ⟨hmark, hdouble, hsingle, hslash⟩ := hs c rfl
  refine ⟨hne, ?_, .inr ⟨hcomma, ?_⟩⟩
  · intro d hd
    obtain rfl := Option.some.inj hd
    refine ⟨?_, hmark⟩
    rintro rfl
    exact hcomma List.mem_cons_self
  · intro rest
    rw [List.cons_append, spanDelimited?, if_neg (not_or.2 ⟨hdouble, hsingle⟩), if_neg hslash]

theorem spanFlag_of_closes {rest : List Char} (h : Closes rest) : spanFlag rest = ([], rest) := by
  rw [spanFlag]
  rintro cs rfl
  have : 'i' = ',' := h 'i' rfl
  exact absurd this (by decide)

/-- A text in quotes or a regular expression between slashes, from the first delimiter to the
last. -/
inductive IsDelimited : List Char → Prop where
  | quoted {quote : Char} {inner : List Char} : quote = '"' ∨ quote = '\'' →
      Enclosed quote inner → IsDelimited (quote :: (inner ++ [quote]))
  | slashed {body : List Char} (ignoreCase : Bool) : Enclosed '/' body →
      IsDelimited (Literal.slashed body ignoreCase)

theorem IsDelimited.isLiteral {token : List Char} (h : IsDelimited token) : IsLiteral token := by
  cases h with
  | @quoted quote inner hquote hinner =>
    refine ⟨List.cons_ne_nil _ _, fun c hc => ?_, .inl fun rest _ => ?_⟩
    · rw [← Option.some.inj hc]
      rcases hquote with rfl | rfl <;> decide
    · have hspan := hinner.spanTo? (quote_ne_backslash hquote) rest
      rw [List.cons_append, spanDelimited?, if_pos hquote, List.append_assoc,
        List.singleton_append, hspan]
      rfl
  | @slashed body ignoreCase hbody =>
    refine ⟨List.cons_ne_nil _ _, fun c hc => ?_, .inl fun rest hr => ?_⟩
    · rw [← Option.some.inj hc]
      decide
    · have hspan := hbody.spanTo? (by decide)
      rw [Literal.slashed, List.cons_append, spanDelimited?, if_neg (by decide), if_pos rfl,
        List.append_assoc, List.cons_append, hspan]
      cases ignoreCase with
      | false =>
        show some ('/' :: (body ++ '/' :: (spanFlag rest).1), (spanFlag rest).2) = _
        rw [spanFlag_of_closes hr]
        rfl
      | true => rfl

theorem isLiteral_enquoted {quote : Char} (h : quote = '"' ∨ quote = '\'') (cs : List Char) :
    IsLiteral (enquoted quote cs) :=
  (IsDelimited.quoted h (enclosed_escaped quote cs)).isLiteral

theorem isLiteral_slashed {pattern : List Char} {ignoreCase : Bool} {r : Regex}
    (h : Regex.compile pattern ignoreCase = .ok (some r)) (hb : hasBare '/' pattern = false) :
    IsLiteral (slashed pattern ignoreCase) := by
  obtain ⟨symbols, hsymbols⟩ := Regex.symbols?_of_compile h
  exact (IsDelimited.slashed ignoreCase (enclosed_of_hasBare hsymbols hb)).isLiteral

/-! ### Texts that are one token -/

section One

variable {token : List Char}

theorem ne_nil_of_split (h : split token = [token]) : token ≠ [] := by
  rintro rfl
  rw [split] at h
  cases h

theorem spanToken_of_split (h : split token = [token]) : spanToken token = (token, []) := by
  have hspan := append_spanToken token
  cases token with
  | nil =>
    rw [split] at h
    cases h
  | cons c cs =>
    rw [split] at h
    split at h
    · have hlength := (infix_of_mem_split (h ▸ List.mem_singleton_self (c :: cs))).length_le
      rw [List.length_cons] at hlength
      omega
    · have hfirst : (spanToken (c :: cs)).1 = c :: cs := (List.cons.inj h).1
      rw [hfirst] at hspan
      exact Prod.ext hfirst (List.append_cancel_left (hspan.trans (List.append_nil _).symm))

theorem split_of_spanToken (hne : token ≠ []) (hcomma : ∀ c ∈ token.head?, c ≠ ',')
    (h : spanToken token = (token, [])) : split token = [token] := by
  obtain ⟨c, cs, rfl⟩ := List.exists_cons_of_ne_nil hne
  rw [split, if_neg (hcomma c rfl), h, List.drop_nil, split]

/-- A text is one token because it is a literal or because it has no comma. -/
theorem cases_of_split (h : split token = [token]) :
    spanLiteral? token = some (token, []) ∨ spanLiteral? token = none ∧ ',' ∉ token := by
  have hspan := spanToken_of_split h
  rw [spanToken] at hspan
  split at hspan
  · next found hfound =>
    rw [hspan] at hfound
    exact .inl hfound
  · next hnone =>
    refine .inr ⟨hnone, fun hcomma => ?_⟩
    rw [← (Prod.mk.inj hspan).1] at hcomma
    exact absurd (List.mem_takeWhile_imp hcomma) (by decide)

/-- An exclamation mark in front of a text that is one token belongs to it. -/
theorem split_marked (h : split token = [token]) (hmark : ∀ c ∈ token.head?, c ≠ '!') :
    split ('!' :: token) = ['!' :: token] := by
  have hspan : spanToken ('!' :: token ++ []) = ('!' :: token, []) := by
    have hliteral := spanLiteral?_cons_mark hmark
    rcases cases_of_split h with hsome | ⟨hnone, hcomma⟩
    · rw [hsome] at hliteral
      exact spanToken_of_literal (by rw [List.append_nil, hliteral]; rfl)
    · rw [hnone] at hliteral
      refine spanToken_of_plain (by rw [List.append_nil, hliteral]; rfl) ?_ closes_nil
      rw [List.mem_cons, not_or]
      exact ⟨by decide, hcomma⟩
  rw [List.append_nil] at hspan
  refine split_of_spanToken (List.cons_ne_nil _ _) (fun c hc => ?_) hspan
  rw [← Option.some.inj hc]
  decide

end One

end TokenList
end QueryCriteria
