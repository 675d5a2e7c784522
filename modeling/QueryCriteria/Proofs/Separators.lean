import QueryCriteria.Proofs.TokenGrammar

/-!
What splitting leaves out.  `Separated` says that tokens stand in a text one after the other with
nothing but commas around them.  The splitter skips the character after a token unseen: it is a comma
or, after a literal, the line break at the end of the text, which is then in no token.
-/
namespace QueryCriteria
namespace TokenList

/-- No token is empty, before, between and after the tokens are only commas, and between two of them
is at least one. -/
inductive Separated : List Char → List (List Char) → Prop where
  | nil : Separated [] []
  | comma {cs : List Char} {tokens : List (List Char)} : Separated cs tokens →
      Separated (',' :: cs) tokens
  | last {token : List Char} : token ≠ [] → Separated token [token]
  | token {token cs : List Char} {tokens : List (List Char)} : token ≠ [] → Separated cs tokens →
      Separated (token ++ ',' :: cs) (token :: tokens)

/-- The last token is a literal. -/
def EndsInLiteral (tokens : List (List Char)) : Prop :=
  ∃ token, tokens.getLast? = some token ∧ IsDelimited (unmarked token)

variable {cs token rest raw : List Char} {tokens : List (List Char)}

theorem EndsInLiteral.cons (h : EndsInLiteral tokens) (token : List Char) :
    EndsInLiteral (token :: tokens) := by
  obtain ⟨final, hfinal, hliteral⟩ := h
  refine ⟨final, ?_, hliteral⟩
  rw [List.getLast?_cons, hfinal]
  rfl

/-- The tokens are separated in the text, or in the text but for a line break at its end. -/
theorem exists_separated_split (raw : List Char) :
    ∃ body tail, raw = body ++ tail ∧ Separated body (split raw) ∧
      (tail = [] ∨ tail = ['\n'] ∧ EndsInLiteral (split raw)) := by
  fun_induction split raw with
  | case1 => exact ⟨[], [], rfl, .nil, .inl rfl⟩
  | case2 cs ih =>
    obtain ⟨body, tail, rfl, hbody, htail⟩ := ih
    exact ⟨',' :: body, tail, rfl, .comma hbody, htail⟩
  | case3 c cs hcomma ih =>
    obtain ⟨hne, -⟩ := @shape_of_spanToken cs c hcomma
    have happend := append_spanToken (c :: cs)
    rcases hspan : spanToken (c :: cs) with ⟨token, rest⟩
    rw [hspan] at happend hne ih
    rw [← happend]
    rcases cases_of_spanToken hspan with rfl | ⟨after, rfl⟩ | ⟨rfl, hliteral⟩
    · refine ⟨token, [], rfl, ?_, .inl rfl⟩
      rw [List.drop_nil, split]
      exact .last hne
    -- the rest of the tokens is separated in the text after the comma
    · obtain ⟨body, tail, hafter, hbody, htail⟩ := ih
      rw [List.drop_one, List.tail_cons] at hafter hbody htail
      refine ⟨token ++ ',' :: body, tail, ?_, .token hne hbody, htail.imp_right ?_⟩
      · rw [hafter, List.append_assoc, List.cons_append]
      · exact fun hline => ⟨hline.1, hline.2.cons token⟩
    · refine ⟨token, ['\n'], rfl, ?_, .inr ⟨rfl, token, ?_, isDelimited_of_spanLiteral? hliteral⟩⟩
      · rw [List.drop_one, List.tail_cons, split]
        exact .last hne
      · rw [List.drop_one, List.tail_cons, split]
        rfl

/-! ### Separated tokens -/

/-- What is no comma stands in a token. -/
theorem Separated.exists_mem (h : Separated raw tokens) {c : Char} (hc : c ∈ raw) (hne : c ≠ ',') :
    ∃ token ∈ tokens, c ∈ token := by
  induction h with
  | nil => cases hc
  | comma _ ih => exact ih ((List.mem_cons.1 hc).resolve_left hne)
  | last _ => exact ⟨_, List.mem_cons_self, hc⟩
  | token _ _ ih =>
    rcases List.mem_append.1 hc with hc | hc
    · exact ⟨_, List.mem_cons_self, hc⟩
    · obtain ⟨token, htoken, hmem⟩ := ih ((List.mem_cons.1 hc).resolve_left hne)
      exact ⟨token, List.mem_cons_of_mem _ htoken, hmem⟩

theorem getLast?_of_comma {c : Char} (h : (',' :: cs).getLast? = some c) (hne : c ≠ ',') :
    cs.getLast? = some c := by
  cases cs with
  | nil => exact absurd (Option.some.inj h).symm hne
  | cons d cs => rwa [List.getLast?_cons_cons] at h

/-- A text that does not end in a comma ends as its last token does. -/
theorem Separated.getLast?_eq (h : Separated raw tokens) {c : Char} (hc : raw.getLast? = some c)
    (hne : c ≠ ',') : ∃ token, tokens.getLast? = some token ∧ token.getLast? = some c := by
  induction h with
  | nil => cases hc
  | comma _ ih => exact ih (getLast?_of_comma hc hne)
  | last _ => exact ⟨_, rfl, hc⟩
  | token _ _ ih =>
    rw [List.getLast?_append, List.getLast?_cons, Option.some_or, ← List.getLast?_cons] at hc
    obtain ⟨final, hfinal, hlast⟩ := ih (getLast?_of_comma hc hne)
    refine ⟨final, ?_, hlast⟩
    rw [List.getLast?_cons, hfinal]
    rfl

/-- A literal ends in its delimiter or in an `i`, so that no line break is its last character. -/
theorem getLast?_of_isDelimited (h : IsDelimited (unmarked token)) : token.getLast? ≠ some '\n' := by
  have hlast : ∀ literal, IsDelimited literal → literal.getLast? ≠ some '\n' := by
    intro literal hliteral hline
    obtain ⟨init, rfl⟩ := List.getLast?_eq_some_iff.1 hline
    have hkept := hliteral.isTypedWhole.1
    rw [Text.dropFinalNewline_line] at hkept
    exact absurd (congrArg List.length hkept) (by simp)
  cases token with
  | nil => nofun
  | cons c cs =>
    by_cases hmark : c = '!'
    · subst hmark
      have hcs : IsDelimited cs := h
      obtain ⟨d, ds, rfl⟩ := List.exists_cons_of_ne_nil hcs.isLiteral.nonempty
      rw [List.getLast?_cons_cons]
      exact hlast _ hcs
    · rw [unmarked_cons hmark] at h
      exact hlast _ h

/-- Splitting leaves out nothing but commas and at most one line break at the end of the text, and
it leaves out the line break exactly if the last token is a literal. -/
theorem only_separators_left_out_iff (raw : List Char) :
    (∃ body tail, raw = body ++ tail ∧ Separated body (split raw) ∧
      (tail = [] ∨ tail = ['\n'] ∧ EndsInLiteral (split raw))) ∧
    (Separated raw (split raw) ↔ ¬ (raw.getLast? = some '\n' ∧ EndsInLiteral (split raw))) := by
  have hexists := exists_separated_split raw
  refine ⟨hexists, fun hseparated hline => ?_, fun hkept => ?_⟩
  · obtain ⟨hraw, token, htoken, hliteral⟩ := hline
    obtain ⟨final, hfinal, hlast⟩ := hseparated.getLast?_eq hraw (by decide)
    obtain rfl : token = final := Option.some.inj (htoken.symm.trans hfinal)
    exact getLast?_of_isDelimited hliteral hlast
  · obtain ⟨body, tail, hraw, hbody, rfl | ⟨rfl, hliteral⟩⟩ := hexists
    · rw [List.append_nil] at hraw
      rwa [← hraw] at hbody
    · refine absurd ⟨?_, hliteral⟩ hkept
      rw [hraw, List.getLast?_concat]

/-- A line break after a literal is in no token. -/
theorem line_break_left_out :
    split ['\'', 'a', '\'', '\n'] = [['\'', 'a', '\'']] ∧
      ¬ ∀ raw : List Char, Separated raw (split raw) := by
  have hsplit : split ['\'', 'a', '\'', '\n'] = [['\'', 'a', '\'']] := by
    have hspan : spanToken ['\'', 'a', '\'', '\n'] = (['\'', 'a', '\''], ['\n']) := by decide
    rw [split, if_neg (by decide), hspan, List.drop_one, List.tail_cons, split]
  refine ⟨hsplit, fun h => ?_⟩
  have hseparated := h ['\'', 'a', '\'', '\n']
  rw [hsplit] at hseparated
  obtain ⟨token, htoken, hmem⟩ := hseparated.exists_mem (c := '\n') (by decide) (by decide)
  rw [List.mem_singleton.1 htoken] at hmem
  exact absurd hmem (by decide)

end TokenList
end QueryCriteria
