import QueryCriteria.Criteria.Build
import QueryCriteria.Options
import QueryCriteria.Proofs.Fallible
import QueryCriteria.Proofs.FlatCodec
import Mathlib.Data.Nat.Digits.Defs

/-!
Texts that can be written.  A text is written exactly if each integer in it can be, and the
values that a flat query string gives have no integers in them.
-/
namespace QueryCriteria

theorem isWritable_iff {n : Int} : isWritable n = true ↔ n.natAbs < 10 ^ Numeral.maxDigits := by
  have hdigits : 0 < Numeral.maxDigits := by decide
  rw [isWritable, naturalText, decide_eq_true_iff, Nat.length_toDigits_le_iff (by decide) hdigits]

theorem checkWritable_eq_ok_iff {integers : List Int} {u : Unit} :
    checkWritable integers = .ok u ↔ ∀ n ∈ integers, isWritable n = true := by
  rw [checkWritable, ← List.all_eq_true]
  split
  · next h => exact iff_of_true rfl h
  · next h => exact iff_of_false nofun h

/-- A text that cannot be written has an integer of too many digits in it. -/
theorem eq_of_checkWritable_error {integers : List Int} {fault : Fault}
    (h : checkWritable integers = .error fault) : fault = .integerTooLong := by
  rw [checkWritable] at h
  split at h
  · cases h
  · exact (Except.error.inj h).symm

namespace QueryValue

variable {value : QueryValue}

theorem joinedText_eq_ok_iff {text : List Char} : value.joinedText = .ok text ↔
    (∀ n ∈ value.integers false, isWritable n = true) ∧ value.flatten = text := by
  rw [joinedText, Fallible.map_eq_ok_iff]
  constructor
  · rintro ⟨u, hcheck, htext⟩
    exact ⟨checkWritable_eq_ok_iff.1 hcheck, htext⟩
  · rintro ⟨hall, htext⟩
    exact ⟨(), checkWritable_eq_ok_iff.2 hall, htext⟩

theorem itemIntegers_texts (withKeys : Bool) {items : List QueryValue}
    (h : ∀ item ∈ items, ∃ text, item = .text text) : itemIntegers withKeys items = [] := by
  induction items with
  | nil => rfl
  | cons item items ih =>
    obtain ⟨text, rfl⟩ := h item List.mem_cons_self
    exact ih fun other ho => h other (List.mem_cons_of_mem _ ho)

theorem integers_held (withKeys : Bool) (values : List (List Char)) :
    (Flat.held values).integers withKeys = [] := by
  rcases Flat.held_texts values with ⟨text, hheld⟩ | ⟨items, hheld, hitems⟩
  · rw [hheld]
    rfl
  · rw [hheld]
    exact itemIntegers_texts withKeys hitems

end QueryValue

namespace Query

theorem readShape_eq_ok_iff {entries : Query} {isArray : Bool} :
    readShape entries = .ok isArray ↔
      (∀ n ∈ positionIntegers 0 entries, isWritable n = true) ∧
        entries.isArrayShaped = isArray := by
  rw [readShape, Fallible.map_eq_ok_iff]
  constructor
  · rintro ⟨u, hcheck, hshape⟩
    exact ⟨checkWritable_eq_ok_iff.1 hcheck, hshape⟩
  · rintro ⟨hall, hshape⟩
    exact ⟨(), checkWritable_eq_ok_iff.2 hall, hshape⟩

variable {key : QueryKey} {value : QueryValue}

/-- Under a name, a value that can be written is read as it is. -/
theorem texts_name {joined : List Char} (h : value.joinedText = .ok joined) (name : String) :
    texts (.name name) value = .ok (name, String.ofList joined) := by
  rw [texts, h]
  rfl

theorem toList_of_keyText {joined : List Char} {text : String} (h : keyText key joined = .ok text) :
    text.toList = key.display := by
  cases key with
  | name name =>
    rw [← Except.ok.inj h]
    rfl
  | index n =>
    rw [keyText] at h
    split at h
    · cases h
    · obtain ⟨u, -, rfl⟩ := Fallible.map_eq_ok_iff.1 h
      exact String.toList_ofList

/-- The texts of a parameter, where they can be written, are those that display its key and
join its value. -/
theorem eq_of_texts {read : String × String} (h : texts key value = .ok read) :
    read.1.toList = key.display ∧ read.2 = String.ofList value.flatten := by
  obtain ⟨joined, hjoined, h⟩ := Fallible.bind_eq_ok_iff.1 h
  obtain ⟨text, htext, rfl⟩ := Fallible.map_eq_ok_iff.1 h
  obtain ⟨-, rfl⟩ := QueryValue.joinedText_eq_ok_iff.1 hjoined
  exact ⟨toList_of_keyText htext, rfl⟩

end Query
end QueryCriteria
