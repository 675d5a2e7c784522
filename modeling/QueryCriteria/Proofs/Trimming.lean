import Mathlib.Data.List.TakeWhile
import QueryCriteria.Proofs.Segment
import QueryCriteria.Text.Blank

/-!
Texts with characters of a class around them.  Stripping takes off exactly the longest runs at both
ends: what is left neither starts nor ends with such a character, and a text of that kind is found
again between any runs.
-/
namespace QueryCriteria
namespace Text

variable {p : Char → Bool} {cs before after : List Char}

/-- No character of the class stands at either end. -/
structure Bare (p : Char → Bool) (cs : List Char) : Prop where
  head : ∀ c ∈ cs.head?, p c = false
  last : ∀ c ∈ cs.getLast?, p c = false

theorem bare_iff (p : Char → Bool) (cs : List Char) :
    Bare p cs ↔ cs.head?.all (fun c => !p c) = true ∧ cs.getLast?.all (fun c => !p c) = true := by
  simp only [Option.all_eq_true, Bool.not_eq_true']
  exact ⟨fun h => ⟨h.head, h.last⟩, fun h => ⟨h.1, h.2⟩⟩

instance (p : Char → Bool) (cs : List Char) : Decidable (Bare p cs) :=
  decidable_of_iff _ (bare_iff p cs).symm

theorem bare_nil : Bare p [] where
  head := nofun
  last := nofun

theorem Bare.mono {q : Char → Bool} (h : Bare p cs) (hq : ∀ c, q c = true → p c = true) :
    Bare q cs where
  head c hc := Bool.eq_false_iff.2 fun hqc => Bool.false_ne_true ((h.head c hc).symm.trans (hq c hqc))
  last c hc := Bool.eq_false_iff.2 fun hqc => Bool.false_ne_true ((h.last c hc).symm.trans (hq c hqc))

/-- The text stands between runs of characters of the class. -/
def Padded (p : Char → Bool) (cs text : List Char) : Prop :=
  ∃ before after, text = before ++ cs ++ after ∧ (∀ c ∈ before, p c = true) ∧
    ∀ c ∈ after, p c = true

theorem bare_strip (p : Char → Bool) (cs : List Char) : Bare p (strip p cs) where
  head c hc := by
    obtain ⟨after, hafter⟩ : strip p cs <+: cs.dropWhile p := by
      rw [strip, ← List.reverse_suffix, List.reverse_reverse]
      exact List.dropWhile_suffix p
    have hhead : (cs.dropWhile p).head? = some c := by
      rw [← hafter, List.head?_append, Option.mem_def.1 hc]
      rfl
    have hnot := List.head?_dropWhile_not p cs
    rw [hhead] at hnot
    exact hnot
  last c hc := by
    have hhead : ((cs.dropWhile p).reverse.dropWhile p).head? = some c := by
      rw [strip, List.getLast?_reverse] at hc
      exact hc
    have hnot := List.head?_dropWhile_not p (cs.dropWhile p).reverse
    rw [hhead] at hnot
    exact hnot

theorem padded_strip (p : Char → Bool) (cs : List Char) : Padded p (strip p cs) cs := by
  refine ⟨cs.takeWhile p, ((cs.dropWhile p).reverse.takeWhile p).reverse, ?_, fun c hc => ?_,
    fun c hc => ?_⟩
  · rw [strip, List.append_assoc, ← List.reverse_append, List.takeWhile_append_dropWhile,
      List.reverse_reverse, List.takeWhile_append_dropWhile]
  · exact List.mem_takeWhile_imp hc
  · exact List.mem_takeWhile_imp (List.mem_reverse.1 hc)

/-- A text that is bare is found again between runs of characters of the class. -/
theorem Padded.strip_eq {text : List Char} (h : Padded p cs text) (hcs : Bare p cs) :
    strip p text = cs := by
  obtain ⟨before, after, rfl, hbefore, hafter⟩ := h
  have hreverse : ∀ c ∈ after.reverse, p c = true := fun c hc => hafter c (List.mem_reverse.1 hc)
  cases cs with
  | nil =>
    have hall : ∀ c ∈ before ++ [] ++ after, p c = true := by
      rw [List.append_nil]
      exact fun c hc => (List.mem_append.1 hc).elim (hbefore c) (hafter c)
    rw [strip, List.dropWhile_eq_nil_iff.2 hall]
    rfl
  | cons c cs =>
    have hhead : ∀ d ∈ (c :: cs ++ after).head?, p d = false := hcs.head
    have hlast : ∀ d ∈ (c :: cs).reverse.head?, p d = false := by
      rw [List.head?_reverse]
      exact hcs.last
    rw [strip, List.append_assoc, dropWhile_run hbefore hhead, List.reverse_append,
      dropWhile_run hreverse hlast, List.reverse_reverse]

theorem strip_eq_self (h : Bare p cs) : strip p cs = cs :=
  Padded.strip_eq ⟨[], [], (List.append_nil cs).symm, nofun, nofun⟩ h

theorem mem_of_mem_strip {c : Char} (h : c ∈ strip p cs) : c ∈ cs := by
  obtain ⟨left, right, htext, -, -⟩ := padded_strip p cs
  rw [htext]
  exact List.mem_append_left _ (List.mem_append_right _ h)

/-- Stripping begins at the first character that is not of the class, and behind it takes nothing
off but the end. -/
theorem exists_strip_lead {c : Char} (h : ∀ d ∈ before, p d = true) (hc : p c = false)
    (after : List Char) :
    ∃ rest, strip p (before ++ c :: after) = c :: rest ∧ rest <+: after := by
  have hlead : (before ++ c :: after).dropWhile p = c :: after :=
    dropWhile_run h fun d hd => by rwa [← Option.some.inj hd]
  have hend : (after.reverse ++ [c]).dropWhile p = after.reverse.dropWhile p ++ [c] := by
    rw [List.dropWhile_append]
    split
    · next hnil => rw [List.isEmpty_iff.1 hnil, List.dropWhile_cons, hc]; rfl
    · rfl
  refine ⟨(after.reverse.dropWhile p).reverse, ?_, ?_⟩
  · rw [strip, hlead, List.reverse_cons, hend, List.reverse_append]
    rfl
  · rw [← List.reverse_suffix, List.reverse_reverse]
    exact List.dropWhile_suffix p

theorem isBlank_of_isSpace {c : Char} (h : isSpace c = true) : isBlank c = true := by
  rw [isBlank, h, Bool.true_or]

end Text
end QueryCriteria
