/-!
Steps that can end in a fault.  A sequence of them succeeds exactly if each step does.
-/
namespace QueryCriteria
namespace Fallible

variable {α β γ ε : Type}

theorem map_eq_ok_iff {x : Except ε α} {f : α → β} {b : β} :
    x.map f = .ok b ↔ ∃ a, x = .ok a ∧ f a = b := by
  constructor
  · intro h
    cases x with
    | error fault => cases h
    | ok a => exact ⟨a, rfl, Except.ok.inj h⟩
  · rintro ⟨a, rfl, rfl⟩
    rfl

theorem bind_eq_ok_iff {x : Except ε α} {f : α → Except ε β} {b : β} :
    x.bind f = .ok b ↔ ∃ a, x = .ok a ∧ f a = .ok b := by
  constructor
  · intro h
    cases x with
    | error fault => cases h
    | ok a => exact ⟨a, rfl, h⟩
  · rintro ⟨a, rfl, h⟩
    exact h

theorem map_eq_error_iff {x : Except ε α} {f : α → β} {e : ε} : x.map f = .error e ↔ x = .error e := by
  cases x with
  | error fault =>
    show Except.error fault = _ ↔ _
    rw [Except.error.injEq, Except.error.injEq]
  | ok a => exact ⟨nofun, nofun⟩

theorem map_inj {x y : Except ε α} {f : α → β} (hf : ∀ a b, f a = f b → a = b) :
    x.map f = y.map f ↔ x = y := by
  constructor
  · intro h
    cases x with
    | error fault => exact (map_eq_error_iff.1 h.symm).symm
    | ok a =>
      obtain ⟨b, rfl, hb⟩ := map_eq_ok_iff.1 h.symm
      exact congrArg Except.ok (hf a b hb.symm)
  · intro h
    exact congrArg (Except.map f) h

theorem exists_map_ok_iff {x : Except ε α} {f : α → β} :
    (∃ b, x.map f = .ok b) ↔ ∃ a, x = .ok a := by
  cases x with
  | error fault => exact ⟨nofun, nofun⟩
  | ok a => exact ⟨fun _ => ⟨a, rfl⟩, fun _ => ⟨f a, rfl⟩⟩

theorem mapM_ok {f : α → Except ε β} {g : α → β} {xs : List α} (h : ∀ x ∈ xs, f x = .ok (g x)) :
    xs.mapM f = .ok (xs.map g) := by
  induction xs with
  | nil => rfl
  | cons x xs ih =>
    rw [List.mapM_cons, h x List.mem_cons_self, ih fun y hy => h y (List.mem_cons_of_mem x hy)]
    rfl

theorem exists_of_mapM_error {f : α → Except ε β} {xs : List α} {e : ε} (h : xs.mapM f = .error e) :
    ∃ x ∈ xs, f x = .error e := by
  induction xs with
  | nil => cases h
  | cons x xs ih =>
    rw [List.mapM_cons] at h
    cases hx : f x with
    | error fault =>
      rw [hx] at h
      obtain rfl := Except.error.inj h
      exact ⟨x, List.mem_cons_self, hx⟩
    | ok b =>
      rw [hx] at h
      obtain ⟨y, hy, he⟩ := ih (map_eq_error_iff.1 h)
      exact ⟨y, List.mem_cons_of_mem x hy, he⟩

theorem mapM_cons_ok {f : α → Except ε β} {x : α} {y : β} (h : f x = .ok y) (xs : List α) :
    (x :: xs).mapM f = (xs.mapM f).map (y :: ·) := by
  rw [List.mapM_cons, h]
  rfl

theorem exists_mapM_ok_iff {f : α → Except ε β} {xs : List α} :
    (∃ ys, xs.mapM f = .ok ys) ↔ ∀ x ∈ xs, ∃ y, f x = .ok y := by
  constructor
  · intro h x hx
    obtain ⟨ys, hys⟩ := h
    induction xs generalizing ys with
    | nil => cases hx
    | cons z zs ih =>
      rw [List.mapM_cons] at hys
      obtain ⟨y, hy, hrest⟩ := bind_eq_ok_iff.1 hys
      obtain ⟨rest, hzs, -⟩ := map_eq_ok_iff.1 hrest
      rcases List.mem_cons.1 hx with rfl | hx
      · exact ⟨y, hy⟩
      · exact ih hx rest hzs
  · intro h
    induction xs with
    | nil => exact ⟨[], rfl⟩
    | cons z zs ih =>
      obtain ⟨y, hy⟩ := h z List.mem_cons_self
      obtain ⟨rest, hrest⟩ := ih fun x hx => h x (List.mem_cons_of_mem z hx)
      exact ⟨y :: rest, by rw [mapM_cons_ok hy, hrest]; rfl⟩

theorem exists_of_mem_mapM {f : α → Except ε β} {xs : List α} {ys : List β}
    (h : xs.mapM f = .ok ys) {y : β} (hy : y ∈ ys) : ∃ x ∈ xs, f x = .ok y := by
  induction xs generalizing ys with
  | nil =>
    obtain rfl := Except.ok.inj h
    cases hy
  | cons x xs ih =>
    rw [List.mapM_cons] at h
    obtain ⟨first, hfirst, hrest⟩ := bind_eq_ok_iff.1 h
    obtain ⟨rest, hxs, hys⟩ := map_eq_ok_iff.1 hrest
    subst hys
    rcases List.mem_cons.1 hy with rfl | hy
    · exact ⟨x, List.mem_cons_self, hfirst⟩
    · obtain ⟨z, hz, hzy⟩ := ih hxs hy
      exact ⟨z, List.mem_cons_of_mem x hz, hzy⟩

theorem length_of_mapM {f : α → Except ε β} {xs : List α} {ys : List β}
    (h : xs.mapM f = .ok ys) : ys.length = xs.length := by
  induction xs generalizing ys with
  | nil =>
    obtain rfl := Except.ok.inj h
    rfl
  | cons x xs ih =>
    rw [List.mapM_cons] at h
    obtain ⟨first, -, hrest⟩ := bind_eq_ok_iff.1 h
    obtain ⟨rest, hxs, hys⟩ := map_eq_ok_iff.1 hrest
    rw [← hys]
    exact congrArg (· + 1) (ih hxs)

theorem mapM_congr {f g : α → Except ε β} {xs : List α} (h : ∀ x ∈ xs, f x = g x) :
    xs.mapM f = xs.mapM g := by
  induction xs with
  | nil => rfl
  | cons x xs ih =>
    rw [List.mapM_cons, List.mapM_cons, h x List.mem_cons_self,
      ih fun y hy => h y (List.mem_cons_of_mem x hy)]

theorem mapM_map (f : α → Except ε β) (g : β → γ) (xs : List α) :
    (xs.mapM fun x => (f x).map g) = (xs.mapM f).map (List.map g) := by
  induction xs with
  | nil => rfl
  | cons x xs ih =>
    rw [List.mapM_cons, List.mapM_cons, ih]
    cases f x with
    | error fault => rfl
    | ok y => cases xs.mapM f <;> rfl

/-! ### Checks in a row -/

/-- Whether a step succeeds, and with which fault it does not. -/
def outcome (x : Except ε α) : Except ε Unit := x.map fun _ => ()

theorem outcome_map (x : Except ε α) (f : α → β) : outcome (x.map f) = outcome x := by
  cases x <;> rfl

theorem outcome_eq_ok_iff {x : Except ε α} : outcome x = .ok () ↔ ∃ a, x = .ok a := by
  rw [outcome, map_eq_ok_iff]
  exact exists_congr fun a => and_iff_left rfl

theorem forM_eq_ok_iff {f : α → Except ε Unit} {xs : List α} :
    forM xs f = .ok () ↔ ∀ x ∈ xs, f x = .ok () := by
  induction xs with
  | nil => exact ⟨fun _ x hx => (List.not_mem_nil hx).elim, fun _ => rfl⟩
  | cons x xs ih =>
    rw [List.forM_cons, List.forall_mem_cons, ← ih]
    cases f x with
    | error fault => exact ⟨nofun, fun h => nomatch h.1⟩
    | ok _ => exact ⟨fun h => ⟨rfl, h⟩, fun h => h.2⟩

theorem exists_of_forM_error {f : α → Except ε Unit} {xs : List α} {e : ε}
    (h : forM xs f = .error e) : ∃ x ∈ xs, f x = .error e := by
  induction xs with
  | nil => cases h
  | cons x xs ih =>
    rw [List.forM_cons] at h
    cases hx : f x with
    | error fault =>
      rw [hx] at h
      obtain rfl := Except.error.inj h
      exact ⟨x, List.mem_cons_self, hx⟩
    | ok _ =>
      rw [hx] at h
      obtain ⟨y, hy, he⟩ := ih h
      exact ⟨y, List.mem_cons_of_mem x hy, he⟩

end Fallible
end QueryCriteria
