import QueryCriteria.Proofs.Criteria

/-!
Criteria read field by field.  The value of a field depends on nothing but the values that
are written for it: mappings are merged into the mapping that is there, and any other value
replaces what is there.
-/
namespace QueryCriteria
namespace Criteria

/-- The value of a field after one more value has been written for it. -/
def joined : Option Value → Value → Value
  | some (.map old), .map new => .map (Entries.merge Key.label old new)
  | _, value => value

theorem add_eq_insert (criteria : Criteria) (key : Key) (value : Value) :
    criteria.add key value = criteria.insert key (joined (criteria.get? key) value) := by
  unfold add
  split
  · next hget => rw [hget, joined]
  · next hother =>
    congr 1
    unfold joined
    split
    · next hget => exact (hother _ _ hget rfl).elim
    · rfl

theorem get?_add (criteria : Criteria) (key other : Key) (value : Value) :
    (criteria.add key value).get? other =
      if key.label = other.label then some (joined (criteria.get? other) value)
      else criteria.get? other := by
  rw [add_eq_insert, insert, get?, Entries.get?_insert]
  split
  · next h => rw [get?, get?, Entries.get?_congr Key.label h]
  · rfl

theorem label_mem_labels_add {criteria : Criteria} {key : Key} {value : Value} {l : Key.Label} :
    l ∈ Entries.labels Key.label (criteria.add key value) ↔
      l ∈ Entries.labels Key.label criteria ∨ l = key.label := by
  rw [add_eq_insert, insert, Entries.labels_insert]
  split
  · next h =>
    constructor
    · exact .inl
    · rintro (hl | rfl)
      · exact hl
      · exact h
  · rw [List.mem_append, List.mem_singleton]

/-! ### All values of a query -/

/-- The values that are written for a field, in order. -/
def valuesFor (key : Key) (values : List (Key × Value)) : List Value :=
  (values.filter fun e => e.1.label = key.label).map (·.2)

theorem valuesFor_cons (key : Key) (e : Key × Value) (values : List (Key × Value)) :
    valuesFor key (e :: values) =
      if e.1.label = key.label then e.2 :: valuesFor key values else valuesFor key values := by
  rw [valuesFor, List.filter_cons]
  by_cases h : e.1.label = key.label
  · rw [if_pos (decide_eq_true h), if_pos h]
    rfl
  · rw [if_neg (by simpa using h), if_neg h]
    rfl

theorem valuesFor_append (key : Key) (xs ys : List (Key × Value)) :
    valuesFor key (xs ++ ys) = valuesFor key xs ++ valuesFor key ys := by
  rw [valuesFor, List.filter_append, List.map_append]
  rfl

theorem valuesFor_eq_nil {key : Key} {values : List (Key × Value)}
    (h : ∀ e ∈ values, e.1.label ≠ key.label) : valuesFor key values = [] := by
  rw [valuesFor, List.filter_eq_nil_iff.2 fun e he => by simpa using h e he]
  rfl

/-- Fields are independent of each other. -/
theorem get?_addAll (criteria : Criteria) (key : Key) (values : List (Key × Value)) :
    (criteria.addAll values).get? key =
      (valuesFor key values).foldl (fun held value => some (joined held value))
        (criteria.get? key) := by
  induction values generalizing criteria with
  | nil => rfl
  | cons e values ih =>
    have hstep : criteria.addAll (e :: values) = (criteria.add e.1 e.2).addAll values := rfl
    rw [hstep, ih, get?_add, valuesFor_cons]
    split <;> rfl

theorem label_mem_labels_addAll {criteria : Criteria} {values : List (Key × Value)}
    {l : Key.Label} :
    l ∈ Entries.labels Key.label (criteria.addAll values) ↔
      l ∈ Entries.labels Key.label criteria ∨ ∃ e ∈ values, e.1.label = l := by
  induction values generalizing criteria with
  | nil => simp [addAll]
  | cons e values ih =>
    have hstep : criteria.addAll (e :: values) = (criteria.add e.1 e.2).addAll values := rfl
    rw [hstep, ih, label_mem_labels_add, or_assoc, List.exists_mem_cons_iff]
    exact or_congr_right (or_congr_left eq_comm)

theorem get?_ofValues (key : Key) (values : List (Key × Value)) :
    (ofValues values).get? key =
      (valuesFor key values).foldl (fun held value => some (joined held value)) none :=
  get?_addAll [] key values

/-- The fields of the criteria are the ones that values are written for. -/
theorem label_mem_labels_ofValues {values : List (Key × Value)} {l : Key.Label} :
    l ∈ Entries.labels Key.label (ofValues values) ↔ ∃ e ∈ values, e.1.label = l := by
  rw [ofValues_eq_addAll, label_mem_labels_addAll]
  simp [Entries.labels]

end Criteria
end QueryCriteria
