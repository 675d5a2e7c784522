import QueryCriteria.Entries
import Mathlib.Data.List.Nodup

/-!
Laws of ordered mappings.  Writing a new label appends an entry, writing one that is there
changes its value in place, and so mappings with distinct labels are built by appending.
-/
namespace QueryCriteria
namespace Entries

variable {κ ν α : Type} (label : κ → ν)

theorem labels_append (es fs : List (κ × α)) :
    labels label (es ++ fs) = labels label es ++ labels label fs := by
  simp [labels]

variable [DecidableEq ν]

/-- Keys with one label name the same entry. -/
theorem get?_congr {key other : κ} (h : label key = label other) (es : List (κ × α)) :
    get? label key es = get? label other es := by
  induction es with
  | nil => rfl
  | cons e es ih => simp [get?, ih, h]

theorem get?_insert (key other : κ) (a : α) (es : List (κ × α)) :
    get? label other (insert label key a es) =
      if label key = label other then some a else get? label other es := by
  by_cases h : label key = label other
  · rw [if_pos h, ← get?_congr label h, get?_insert_self]
  · rw [if_neg h, get?_insert_of_ne label h]

theorem get?_eq_none {key : κ} {es : List (κ × α)} (h : label key ∉ labels label es) :
    get? label key es = none := by
  induction es with
  | nil => rfl
  | cons e es ih =>
    simp only [labels, List.map_cons, List.mem_cons, not_or] at h
    rw [get?, if_neg (Ne.symm h.1)]
    exact ih h.2

theorem get?_append (key : κ) (es fs : List (κ × α)) :
    get? label key (es ++ fs) = (get? label key es).or (get? label key fs) := by
  induction es with
  | nil => rfl
  | cons e es ih =>
    obtain ⟨k, a⟩ := e
    by_cases h : label k = label key <;> simp [get?, h, ih]

/-- A new label goes to the end. -/
theorem insert_of_not_mem {key : κ} {es : List (κ × α)} (h : label key ∉ labels label es) (a : α) :
    insert label key a es = es ++ [(key, a)] := by
  induction es with
  | nil => rfl
  | cons e es ih =>
    simp only [labels, List.map_cons, List.mem_cons, not_or] at h
    rw [insert, if_neg (Ne.symm h.1), ih h.2, List.cons_append]

/-- A label that is there keeps its place and its key. -/
theorem insert_append_cons {key k : κ} {es : List (κ × α)} (h : label key ∉ labels label es)
    (hk : label k = label key) (a b : α) (fs : List (κ × α)) :
    insert label key a (es ++ (k, b) :: fs) = es ++ (k, a) :: fs := by
  induction es with
  | nil => simp [insert, hk]
  | cons e es ih =>
    simp only [labels, List.map_cons, List.mem_cons, not_or] at h
    rw [List.cons_append, insert, if_neg (Ne.symm h.1), ih h.2, List.cons_append]

/-- Of two writes to one key only the later counts. -/
theorem insert_insert (key : κ) (a b : α) (es : List (κ × α)) :
    insert label key a (insert label key b es) = insert label key a es := by
  induction es with
  | nil => simp [insert]
  | cons e es ih =>
    obtain ⟨k, c⟩ := e
    by_cases h : label k = label key
    · simp [insert, h]
    · simp [insert, h, ih]

/-! ### Entries written one after the other -/

/-- The value that is written last for a key. -/
def lastOf (key : κ) (es : List (κ × α)) : Option α :=
  (es.filter fun e => label e.1 = label key).getLast?.map (·.2)

theorem lastOf_cons (key : κ) (e : κ × α) (es : List (κ × α)) :
    lastOf label key (e :: es) =
      (lastOf label key es).or (if label e.1 = label key then some e.2 else none) := by
  rw [lastOf, lastOf, List.filter_cons]
  by_cases h : label e.1 = label key
  · rw [if_pos (decide_eq_true h), if_pos h, List.getLast?_cons]
    cases (es.filter fun e => decide (label e.1 = label key)).getLast? <;> rfl
  · rw [if_neg (by simpa using h), if_neg h, Option.or_none]

theorem lastOf_append (key : κ) (es fs : List (κ × α)) :
    lastOf label key (es ++ fs) = (lastOf label key fs).or (lastOf label key es) := by
  rw [lastOf, List.filter_append, List.getLast?_append, Option.map_or]
  rfl

theorem lastOf_eq_none {key : κ} {es : List (κ × α)} (h : label key ∉ labels label es) :
    lastOf label key es = none := by
  rw [lastOf, Option.map_eq_none_iff, List.getLast?_eq_none_iff, List.filter_eq_nil_iff]
  intro e he hlabel
  exact h (List.mem_map.2 ⟨e, he, of_decide_eq_true hlabel⟩)

theorem get?_merge (key : κ) (base es : List (κ × α)) :
    get? label key (merge label base es) = (lastOf label key es).or (get? label key base) := by
  induction es generalizing base with
  | nil => rfl
  | cons e es ih =>
    have hstep : merge label base (e :: es) = merge label (insert label e.1 e.2 base) es := rfl
    rw [hstep, ih, get?_insert, lastOf_cons, Option.or_assoc]
    split <;> rfl

theorem get?_ofList (key : κ) (es : List (κ × α)) :
    get? label key (ofList label es) = lastOf label key es := by
  rw [ofList, get?_merge]
  exact Option.or_none

/-- An entry after a write is an old one, or it has the new value and the new key or an old
one with the same label. -/
theorem mem_insert {key : κ} {a : α} {es : List (κ × α)} {e : κ × α}
    (h : e ∈ insert label key a es) :
    e ∈ es ∨ e.2 = a ∧ label e.1 = label key ∧ (e.1 = key ∨ ∃ f ∈ es, f.1 = e.1) := by
  induction es with
  | nil =>
    rw [insert, List.mem_singleton] at h
    subst h
    exact .inr ⟨rfl, rfl, .inl rfl⟩
  | cons f es ih =>
    rw [insert] at h
    split at h
    · next hlabel =>
      rcases List.mem_cons.1 h with rfl | h
      · exact .inr ⟨rfl, hlabel, .inr ⟨f, List.mem_cons_self, rfl⟩⟩
      · exact .inl (List.mem_cons_of_mem f h)
    · rcases List.mem_cons.1 h with rfl | h
      · exact .inl List.mem_cons_self
      · rcases ih h with hold | ⟨ha, hlabel, hkey | ⟨g, hg, he⟩⟩
        · exact .inl (List.mem_cons_of_mem f hold)
        · exact .inr ⟨ha, hlabel, .inl hkey⟩
        · exact .inr ⟨ha, hlabel, .inr ⟨g, List.mem_cons_of_mem f hg, he⟩⟩

theorem filter_insert {key : κ} {p : κ × α → Bool}
    (h : ∀ e : κ × α, label e.1 = label key → p e = false) (a : α) (es : List (κ × α)) :
    (insert label key a es).filter p = es.filter p := by
  induction es with
  | nil => rw [insert, List.filter_cons, h (key, a) rfl]; rfl
  | cons f es ih =>
    obtain ⟨k, b⟩ := f
    rw [insert]
    split
    · next hk =>
      rw [List.filter_cons, List.filter_cons, h (k, a) hk, h (k, b) hk]
      rfl
    · rw [List.filter_cons, List.filter_cons, ih]

theorem exists_mem_of_get? {key : κ} {es : List (κ × α)} {a : α} (h : get? label key es = some a) :
    ∃ k, (k, a) ∈ es ∧ label k = label key := by
  induction es with
  | nil => cases h
  | cons e es ih =>
    obtain ⟨k, b⟩ := e
    rw [get?] at h
    split at h
    · next hlabel =>
      rw [← Option.some.inj h]
      exact ⟨k, List.mem_cons_self, hlabel⟩
    · obtain ⟨k', hmem, hlabel⟩ := ih h
      exact ⟨k', List.mem_cons_of_mem _ hmem, hlabel⟩

theorem mem_labels_of_get? {key : κ} {es : List (κ × α)} {a : α}
    (h : get? label key es = some a) : label key ∈ labels label es := by
  obtain ⟨k, hmem, hlabel⟩ := exists_mem_of_get? label h
  exact List.mem_map.2 ⟨(k, a), hmem, hlabel⟩

/-- Writing invents no keys. -/
theorem exists_of_mem_merge {base es : List (κ × α)} {e : κ × α} (h : e ∈ merge label base es) :
    (∃ f ∈ base, f.1 = e.1) ∨ ∃ f ∈ es, f.1 = e.1 := by
  induction es generalizing base with
  | nil => exact .inl ⟨e, h, rfl⟩
  | cons g es ih =>
    rcases ih h with ⟨f, hf, he⟩ | ⟨f, hf, he⟩
    · rcases mem_insert label hf with hold | ⟨-, -, hkey | ⟨f', hf', he'⟩⟩
      · exact .inl ⟨f, hold, he⟩
      · exact .inr ⟨g, List.mem_cons_self, hkey.symm.trans he⟩
      · exact .inl ⟨f', hf', he'.trans he⟩
    · exact .inr ⟨f, List.mem_cons_of_mem g hf, he⟩

theorem exists_of_mem_ofList {es : List (κ × α)} {e : κ × α} (h : e ∈ ofList label es) :
    ∃ f ∈ es, f.1 = e.1 := by
  rcases exists_of_mem_merge label h with ⟨f, hf, -⟩ | h
  · cases hf
  · exact h

/-! ### Mappings given by a list of keys -/

section Given

variable {β : Type} [DecidableEq β] {f : β → κ} (hf : ∀ x y, label (f x) = label (f y) → x = y)

include hf

theorem get?_map (g : β → α) (x : β) (xs : List β) :
    get? label (f x) (xs.map fun y => (f y, g y)) = if x ∈ xs then some (g x) else none := by
  induction xs with
  | nil => rfl
  | cons y ys ih =>
    rw [List.map_cons, get?]
    by_cases h : y = x
    · subst h
      simp
    · have hl : label (f y) ≠ label (f x) := fun e => h (hf y x e)
      simp [hl, ih, Ne.symm h]

theorem insert_map {xs : List β} (hnd : xs.Nodup) {x : β} (hx : x ∈ xs) (g : β → α) (a : α) :
    insert label (f x) a (xs.map fun y => (f y, g y)) =
      xs.map fun y => (f y, if y = x then a else g y) := by
  induction xs with
  | nil => cases hx
  | cons y ys ih =>
    rw [List.nodup_cons] at hnd
    rw [List.map_cons, List.map_cons, insert]
    by_cases h : y = x
    · subst h
      have hrest : ys.map (fun z => (f z, g z)) =
          ys.map fun z => (f z, if z = y then a else g z) := by
        refine List.map_congr_left fun z hz => ?_
        have hzy : z ≠ y := fun e => hnd.1 (e ▸ hz)
        rw [if_neg hzy]
      rw [if_pos rfl, if_pos rfl, hrest]
    · have hl : label (f y) ≠ label (f x) := fun e => h (hf y x e)
      rw [if_neg hl, if_neg h, ih hnd.2 (List.mem_of_ne_of_mem (Ne.symm h) hx)]

end Given

/-! ### Distinct labels -/

theorem nodup_labels_insert {es : List (κ × α)} (h : (labels label es).Nodup) (key : κ) (a : α) :
    (labels label (insert label key a es)).Nodup := by
  rw [labels_insert]
  split
  · exact h
  · next hn =>
    rw [List.nodup_append]
    refine ⟨h, List.nodup_singleton _, ?_⟩
    intro x hx y hy hxy
    rw [List.mem_singleton] at hy
    exact hn (hy ▸ hxy ▸ hx)

theorem nodup_labels_merge {base : List (κ × α)} (h : (labels label base).Nodup)
    (es : List (κ × α)) : (labels label (merge label base es)).Nodup := by
  induction es generalizing base with
  | nil => exact h
  | cons e es ih => exact ih (nodup_labels_insert label h e.1 e.2)

theorem nodup_labels_ofList (es : List (κ × α)) : (labels label (ofList label es)).Nodup := by
  rw [ofList]
  refine nodup_labels_merge label ?_ es
  exact List.nodup_nil

/-- Entries with new and distinct labels are appended. -/
theorem merge_of_nodup {base es : List (κ × α)} (h : (labels label (base ++ es)).Nodup) :
    merge label base es = base ++ es := by
  induction es generalizing base with
  | nil => simp [merge]
  | cons e es ih =>
    have hnew : label e.1 ∉ labels label base := by
      intro hmem
      rw [labels_append, List.nodup_append] at h
      exact h.2.2 _ hmem _ (by simp [labels]) rfl
    have hsplit : base ++ e :: es = (base ++ [e]) ++ es := by simp
    rw [hsplit] at h ⊢
    rw [← ih h]
    show merge label (insert label e.1 e.2 base) es = _
    rw [insert_of_not_mem label hnew]

end Entries
end QueryCriteria
