import QueryCriteria.Config.Build
import QueryCriteria.Proofs.Fallible

/-!
Configurations: which names are never filters, and what every configuration that was built
has been checked for.
-/
namespace QueryCriteria
namespace Config

theorem mem_ignoredFields {c : Config} {name : String} :
    name ∈ c.ignoredFields ↔ name ∈ c.ignore ∨ name ∈ c.keywords.names := by
  rw [ignoredFields, Names.mem_union, keywordNames, Names.mem_ofList]

/-- What a configuration is checked for. -/
structure Valid (c : Config) : Prop where
  keywords : ∀ name ∈ c.keywords.names, name ≠ ""
  maxLimit : ∀ n, c.maxLimit = some n → 0 < n

theorem valid_default : ({} : Config).Valid where
  keywords := by decide
  maxLimit n h := by cases h

theorem checkKeyword_ne_empty (settings : Settings) (name : String) {fallback : String}
    (h : fallback ≠ "") : (checkKeyword settings name fallback).value ≠ "" := by
  unfold checkKeyword
  split
  · exact h
  · split
    · exact h
    · next hs => exact hs
  · exact h

theorem checkKeywords_ne_empty (setting : Setting) :
    ∀ name ∈ (checkKeywords setting).value.names, name ≠ "" := by
  unfold checkKeywords
  split
  · next entries =>
    intro name hm
    simp only [Keywords.names, List.mem_cons, List.not_mem_nil, or_false] at hm
    rcases hm with rfl | rfl | rfl | rfl | rfl
    · exact checkKeyword_ne_empty entries "fields" (by decide)
    · exact checkKeyword_ne_empty entries "omit" (by decide)
    · exact checkKeyword_ne_empty entries "sort" (by decide)
    · exact checkKeyword_ne_empty entries "offset" (by decide)
    · exact checkKeyword_ne_empty entries "limit" (by decide)
  · exact valid_default.keywords

theorem checkPositive_pos {n m : Int} (h : (checkPositive n).value = some m) : 0 < m := by
  unfold checkPositive at h
  split at h
  · next hn =>
    obtain rfl := Option.some.inj h
    exact hn
  · cases h

theorem checkConverted_pos {found : Except ProblemKind Int} {m : Int}
    (h : (checkConverted found).value = some m) : 0 < m := by
  unfold checkConverted at h
  split at h
  · exact checkPositive_pos h
  · cases h

theorem checkMaxLimit_pos {setting : Setting} {m : Int}
    (h : (checkMaxLimit setting).value = some m) : 0 < m := by
  unfold checkMaxLimit at h
  split at h
  · cases h
  · exact checkPositive_pos h
  · exact checkPositive_pos h
  · exact checkConverted_pos h
  · exact checkConverted_pos h
  · cases h

/-- A part of a configuration comes from the base or has been checked. -/
theorem part_of_forall {α : Type} {P : α → Prop} {settings : Settings} {name : String}
    {check : Setting → Checked α} {base : α} (hb : P base) (h : ∀ s, P (check s).value) :
    P (part settings name check base).value := by
  unfold part
  split
  · exact hb
  · exact h _

theorem valid_of_build {base c : Config} {settings : Settings} (hb : base.Valid)
    (h : build base settings = .ok c) : c.Valid := by
  have hvalue : c = (check base settings).value := by
    unfold build at h
    split at h
    · cases h
    · split at h
      · next hcheck =>
        obtain rfl := Except.ok.inj h
        rw [hcheck]
      · cases h
  rw [hvalue]
  refine ⟨?_, ?_⟩
  · exact part_of_forall (P := fun k : Keywords => ∀ name ∈ k.names, name ≠ "") hb.keywords
      checkKeywords_ne_empty
  · exact part_of_forall (P := fun m : Option Int => ∀ n, m = some n → 0 < n) hb.maxLimit
      fun s n hn => checkMaxLimit_pos hn

end Config
end QueryCriteria
