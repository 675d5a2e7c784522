import QueryCriteria.Proofs.Configuration
import QueryCriteria.Proofs.Criteria
import QueryCriteria.Proofs.Options
import QueryCriteria.Selection

/-!
Selections of queries that consist of comparisons, read with the default configuration.
-/
namespace QueryCriteria
namespace Selection

theorem mem_ignoredFields_default {name : String} (h : name ∉ ({} : Keywords).names) :
    name ∉ ({} : Config).ignoredFields := by
  intro hm
  rcases Config.mem_ignoredFields.1 hm with hm | hm
  · cases hm
  · exact h hm

/-- No keyword holds a character that starts a relation. -/
theorem not_keyword_of_special {cs : List Char} {c : Char} (hc : c ∈ cs)
    (h : Expression.isSpecial c = true) : String.ofList cs ∉ ({} : Keywords).names := by
  have hplain : (({} : Keywords).names.all fun name =>
      name.toList.all fun c => !Expression.isSpecial c) = true := by decide
  intro hm
  have hname := List.all_eq_true.1 hplain _ hm
  rw [String.toList_ofList] at hname
  have hfalse := List.all_eq_true.1 hname c hc
  rw [h] at hfalse
  cases hfalse

/-- A query string without keywords gives its criteria and no options. -/
theorem ofText_of_criteria {text : List Char} {criteria : Criteria} {notices : List Notice}
    (hkey : ∀ name ∈ ({} : Keywords).names, .name name ∉ Entries.labels id (Flat.parse text))
    (h : (Flat.parse text).criteria {} ({} : Config).ignoredFields = .ok (criteria, notices)) :
    ofText {} (String.ofList text) =
      .ok ({ criteria, options := {}, query := Flat.parse text, config := {} }, notices) := by
  have hoptions := Options.ofQuery_of_absent
    (fun name hn => Entries.get?_eq_none id (hkey name hn)) none
  show ofQuery {} (Flat.parse (String.ofList text).toList) = _
  rw [String.toList_ofList, ofQuery]
  show ((Flat.parse text).criteria {} ({} : Config).ignoredFields).bind _ = _
  rw [h]
  show (Options.ofQuery {} none (Flat.parse text)).map _ = _
  rw [hoptions]
  show Except.ok (_, notices ++ []) = _
  rw [List.append_nil]

variable {β : Type} {params : List β} {key : β → List Char} {values : β → List (List Char)}
  {give : β → Comparison}

/-- Parameters that are comparisons, one each, give criteria and nothing else. -/
theorem ofText_of_comparisons {text : List Char}
    (hparse : Flat.parse text = params.map fun p => (Flat.nameOf (key p), Flat.held (values p)))
    (h : ∀ p ∈ params, Comparison.parse {} (String.ofList (key p))
      (String.ofList (Text.joinWith ',' (values p))) = .ok (some (give p)))
    (hkey : ∀ p ∈ params, String.ofList (key p) ∉ ({} : Keywords).names)
    (hfield : ∀ p ∈ params, (give p).field ∉ ({} : Keywords).names) :
    ofText {} (String.ofList text) =
      .ok ({ criteria :=
               Criteria.ofValues (params.map fun p => (.field (give p).field, (give p).value))
             options := {}, query := Flat.parse text, config := {} }, []) := by
  have hcriteria := Query.criteria_of_comparisons h
    (fun p hp => mem_ignoredFields_default (hkey p hp))
    (fun p hp => mem_ignoredFields_default (hfield p hp))
  rw [← hparse] at hcriteria
  refine ofText_of_criteria (fun name hn => ?_) hcriteria
  rw [hparse]
  intro hm
  obtain ⟨entry, he, hname⟩ := List.mem_map.1 hm
  obtain ⟨p, hp, rfl⟩ := List.mem_map.1 he
  exact hkey p hp (QueryKey.name.inj hname ▸ hn)

end Selection
end QueryCriteria
