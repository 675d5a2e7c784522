import QueryCriteria.Text.Segment

/-!
Joined and cut texts, and runs of characters of one class.
-/
namespace QueryCriteria
namespace Text

theorem mem_joinWith {sep c : Char} {pieces : List (List Char)} (h : c ∈ joinWith sep pieces) :
    c = sep ∨ ∃ piece ∈ pieces, c ∈ piece := by
  fun_induction joinWith sep pieces with
  | case1 => cases h
  | case2 piece => exact .inr ⟨piece, List.mem_cons_self, h⟩
  | case3 piece next pieces ih =>
    rw [List.mem_append, List.mem_cons] at h
    rcases h with h | h | h
    · exact .inr ⟨piece, List.mem_cons_self, h⟩
    · exact .inl h
    · rcases ih h with h | ⟨other, hm, hc⟩
      · exact .inl h
      · exact .inr ⟨other, List.mem_cons_of_mem _ hm, hc⟩

theorem exists_joinWith_cons (sep : Char) (piece : List Char) (pieces : List (List Char)) :
    ∃ after, joinWith sep (piece :: pieces) = piece ++ after := by
  cases pieces with
  | nil => exact ⟨[], (List.append_nil piece).symm⟩
  | cons next pieces => exact ⟨_, rfl⟩

theorem infix_joinWith {sep : Char} {pieces : List (List Char)} {piece : List Char}
    (h : piece ∈ pieces) : piece <:+: joinWith sep pieces := by
  fun_induction joinWith sep pieces with
  | case1 => cases h
  | case2 only =>
    obtain rfl := List.mem_singleton.1 h
    exact List.infix_rfl
  | case3 first next pieces ih =>
    rcases List.mem_cons.1 h with rfl | h
    · exact (List.prefix_append _ _).isInfix
    · exact (ih h).trans ((List.suffix_cons _ _).trans (List.suffix_append _ _)).isInfix

theorem infix_of_mem_splitOn {sep : Char} {cs piece : List Char} (h : piece ∈ splitOn sep cs) :
    piece <:+: cs := by
  have hjoin : piece <:+: joinWith sep (splitOn sep cs) := infix_joinWith h
  rwa [joinWith_splitOn] at hjoin

theorem dropFinalNewline_prefix (cs : List Char) : dropFinalNewline cs <+: cs := by
  fun_induction dropFinalNewline cs with
  | case1 => exact List.prefix_rfl
  | case2 => exact List.nil_prefix
  | case3 c cs _ ih => exact (List.prefix_cons_inj c).2 ih

/-- Nothing but one line break at the end is dropped. -/
theorem eq_dropFinalNewline (cs : List Char) :
    cs = dropFinalNewline cs ∨ cs = dropFinalNewline cs ++ ['\n'] := by
  fun_induction dropFinalNewline cs with
  | case1 => exact .inl rfl
  | case2 => exact .inr rfl
  | case3 c cs _ ih => exact ih.imp (congrArg (c :: ·)) (congrArg (c :: ·))

theorem dropFinalNewline_line (cs : List Char) : dropFinalNewline (cs ++ ['\n']) = cs := by
  induction cs with
  | nil => rfl
  | cons c cs ih =>
    rw [List.cons_append, dropFinalNewline, ih]
    intro _ hnil
    exact absurd hnil (by simp)

theorem cutAt_append {sep : Char} {before : List Char} (h : sep ∉ before) (after : List Char) :
    cutAt sep (before ++ sep :: after) = (before, some after) := by
  induction before with
  | nil => simp [cutAt]
  | cons c before ih =>
    simp only [List.mem_cons, not_or] at h
    rw [List.cons_append, cutAt, if_neg (Ne.symm h.1), ih h.2]

theorem cutAt_of_not_mem {sep : Char} {cs : List Char} (h : sep ∉ cs) :
    cutAt sep cs = (cs, none) := by
  induction cs with
  | nil => rfl
  | cons c cs ih =>
    simp only [List.mem_cons, not_or] at h
    rw [cutAt, if_neg (Ne.symm h.1), ih h.2]

/-! ### Runs -/

section Run

variable {p : Char → Bool} {cs rest : List Char}

theorem takeWhile_run (h : ∀ c ∈ cs, p c = true) (hr : ∀ c ∈ rest.head?, p c = false) :
    (cs ++ rest).takeWhile p = cs := by
  rw [List.takeWhile_append_of_pos h]
  cases rest with
  | nil => exact List.append_nil cs
  | cons c rest =>
    have hc : p c = false := hr c rfl
    rw [List.takeWhile_cons, hc]
    exact List.append_nil cs

theorem dropWhile_run (h : ∀ c ∈ cs, p c = true) (hr : ∀ c ∈ rest.head?, p c = false) :
    (cs ++ rest).dropWhile p = rest := by
  rw [List.dropWhile_append_of_pos h]
  cases rest with
  | nil => rfl
  | cons c rest =>
    have hc : p c = false := hr c rfl
    rw [List.dropWhile_cons, hc]
    rfl

end Run
end Text
end QueryCriteria
