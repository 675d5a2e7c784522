import QueryCriteria.Proofs.MergedFields
import Mathlib.Data.Finset.Card

/-!
Operators and nested fields of one field.  Comparisons give a field operators and a nested mapping
gives it fields, all of them in one mapping, in which an operator and a field with the name of the
operator are the same key.  Nothing is lost exactly if no operator meets a field with its name.
-/
namespace QueryCriteria

namespace Entries

variable {κ ν α : Type} [DecidableEq ν] (label : κ → ν)

/-! ### One mapping among others -/

section Among

variable (earlier later : List (List (κ × α))) {m : List (κ × α)} {key : κ}

theorem mem_labels_mergeAll {l : ν} {maps : List (List (κ × α))} :
    l ∈ labels label (mergeAll label maps) ↔ l ∈ labels label maps.flatten := by
  rw [labels_mergeAll, List.mem_eraseDups]

/-- Where a mapping does not have a key, it changes nothing. -/
theorem get?_mergeAll_of_not_mem (h : label key ∉ labels label m) :
    get? label key (mergeAll label (earlier ++ m :: later)) =
      get? label key (mergeAll label (earlier ++ later)) := by
  rw [get?_mergeAll, get?_mergeAll, List.flatten_append, List.flatten_append, List.flatten_cons,
    lastOf_append, lastOf_append, lastOf_append, lastOf_eq_none label h, Option.or_none]

/-- Where no other mapping has a key, a mapping among them keeps its value. -/
theorem get?_mergeAll_of_mem (hm : (labels label m).Nodup)
    (h : label key ∉ labels label (mergeAll label (earlier ++ later))) :
    get? label key (mergeAll label (earlier ++ m :: later)) = get? label key m := by
  have halone : get? label key m = lastOf label key m := by
    rw [← mergeAll_singleton label hm, get?_mergeAll, mergeAll_singleton label hm]
    simp
  rw [mem_labels_mergeAll, List.flatten_append, labels_append, List.mem_append, not_or] at h
  rw [get?_mergeAll, List.flatten_append, List.flatten_cons, lastOf_append, lastOf_append,
    lastOf_eq_none label h.1, lastOf_eq_none label h.2, Option.none_or, Option.or_none, halone]

theorem nodup_labels_mergeAll (maps : List (List (κ × α))) :
    (labels label (mergeAll label maps)).Nodup := by
  rw [mergeAll, foldl_merge]
  exact nodup_labels_ofList label maps.flatten

/-- The size of what mappings come to is the number of different keys in them. -/
theorem length_mergeAll (maps : List (List (κ × α))) :
    (mergeAll label maps).length = (labels label maps.flatten).toFinset.card := by
  have hlabels : (labels label (mergeAll label maps)).toFinset =
      (labels label maps.flatten).toFinset := by
    ext l
    rw [List.mem_toFinset, List.mem_toFinset, mem_labels_mergeAll]
  rw [← hlabels, List.toFinset_card_of_nodup (nodup_labels_mergeAll label maps)]
  exact (List.length_map _).symm

/-- A mapping adds its size exactly if it shares no key with the others. -/
theorem length_mergeAll_iff (hm : (labels label m).Nodup) :
    (mergeAll label (earlier ++ m :: later)).length =
        (mergeAll label (earlier ++ later)).length + m.length ↔
      ∀ l ∈ labels label (mergeAll label (earlier ++ later)), l ∉ labels label m := by
  have hunion : (labels label (earlier ++ m :: later).flatten).toFinset =
      (labels label (earlier ++ later).flatten).toFinset ∪ (labels label m).toFinset := by
    ext l
    simp only [List.flatten_append, List.flatten_cons, labels_append, Finset.mem_union,
      List.mem_toFinset, List.mem_append]
    tauto
  have hlength : m.length = (labels label m).toFinset.card := by
    rw [List.toFinset_card_of_nodup hm]
    exact (List.length_map _).symm
  rw [length_mergeAll, length_mergeAll, hunion, hlength, Finset.card_union_eq_card_add_card,
    Finset.disjoint_left]
  simp only [List.mem_toFinset, mem_labels_mergeAll]

/-- A mapping among others and the others are all kept, with as many entries as there are in
both, exactly if it shares no key with them. -/
theorem kept_mergeAll_iff (hm : (labels label m).Nodup) :
    (∀ key v, get? label key (mergeAll label (earlier ++ later)) = some v →
        get? label key (mergeAll label (earlier ++ m :: later)) = some v) ∧
      (∀ key v, get? label key m = some v →
        get? label key (mergeAll label (earlier ++ m :: later)) = some v) ∧
      (mergeAll label (earlier ++ m :: later)).length =
        (mergeAll label (earlier ++ later)).length + m.length ↔
      ∀ l ∈ labels label (mergeAll label (earlier ++ later)), l ∉ labels label m := by
  constructor
  · rintro ⟨-, -, hlength⟩
    exact (length_mergeAll_iff label earlier later hm).1 hlength
  · intro hdisjoint
    refine ⟨fun key v hv => ?_, fun key v hv => ?_,
      (length_mergeAll_iff label earlier later hm).2 hdisjoint⟩
    · have hnew : label key ∉ labels label m := hdisjoint _ (mem_labels_of_get? label hv)
      rw [get?_mergeAll_of_not_mem label earlier later hnew, hv]
    · have hnew : label key ∉ labels label (mergeAll label (earlier ++ later)) := fun hmem =>
        hdisjoint _ hmem (mem_labels_of_get? label hv)
      rw [get?_mergeAll_of_mem label earlier later hm hnew, hv]

end Among
end Entries

namespace Criteria

theorem settled_of_isMapping {values : List Value} (hne : values ≠ [])
    (h : ∀ v ∈ values, v.isMapping = true) :
    settled values = some (.map (Entries.mergeAll Key.label (values.map Value.entries))) := by
  have hlast : values.getLast? = some (values.getLast hne) := List.getLast?_eq_some_getLast hne
  rw [settled, hlast, List.rtakeWhile_eq_self_iff.2 h, Option.map_some,
    if_pos (h _ (List.getLast_mem hne))]

end Criteria

namespace Query

variable {switches : Switches} {ignored : List String} {query before after entries : Query}
  {name : String} {criteria others inner : Criteria} {dropped notices : List Notice}

/-! ### What the parameters of one field give -/

theorem given_of_mem_valuesFor {v : Value}
    (hv : v ∈ Criteria.valuesFor (.field name)
      ((query.unignored ignored).filterMap (given switches))) :
    ∃ entry ∈ query.unignored ignored, given switches entry = some (.field name, v) := by
  obtain ⟨⟨key, w⟩, he, rfl⟩ := List.mem_map.1 hv
  obtain ⟨hgiven, hlabel⟩ := List.mem_filter.1 he
  obtain ⟨entry, hentry, hgiven⟩ := List.mem_filterMap.1 hgiven
  have hlabel : key.label = .text name := of_decide_eq_true hlabel
  refine ⟨entry, hentry, ?_⟩
  rcases key_of_given hgiven with ⟨field, rfl⟩ | ⟨n, rfl⟩
  · rw [hgiven, Key.Label.text.inj hlabel]
  · cases hlabel

/-- Under another key than its own name a field gets what comparisons demand. -/
theorem demanded_of_given {entry : QueryKey × QueryValue} {v : Value}
    (hkey : entry.1 ≠ .name name) (h : given switches entry = some (.field name, v)) :
    Demanded v := by
  rcases cases_of_given h with ⟨-, text, c, -, hparse, he⟩ |
    ⟨entries, inner, dropped, -, -, -, he⟩
  · rw [(Prod.mk.inj he).2]
    exact Comparison.demanded_of_parse hparse
  · have hfield := (Prod.mk.inj he).1
    cases hname : entry.1 with
    | name text =>
      rw [hname] at hfield hkey
      exact absurd (congrArg QueryKey.name (Key.field.inj hfield).symm) hkey
    | index n =>
      rw [hname] at hfield
      cases hfield

/-- A query without some of its parameters can be read as well. -/
theorem exists_criteria_of_subset {other : Query} (hsub : ∀ entry ∈ other, entry ∈ query)
    (h : query.criteria switches ignored = .ok (criteria, dropped)) :
    ∃ criteria' dropped', other.criteria switches ignored = .ok (criteria', dropped') := by
  have houtcome := criteria_of_resolved switches ignored query
  rw [h] at houtcome
  have hresolved := Fallible.exists_mapM_ok_iff.1 (Fallible.outcome_eq_ok_iff.1 houtcome.symm)
  refine exists_criteria (Fallible.exists_mapM_ok_iff.2 fun entry hentry => ?_)
  obtain ⟨hmem, hkept⟩ := List.mem_filter.1 hentry
  exact hresolved entry (List.mem_filter.2 ⟨hsub entry hmem, hkept⟩)

/-- The criteria of a nested mapping have no client's own operator as a key. -/
theorem custom_not_mem_labels (h : query.criteria switches [] = .ok (criteria, dropped))
    (custom : String) : Key.Label.custom custom ∉ Entries.labels Key.label criteria := by
  intro hmem
  obtain ⟨entry, -, ⟨key, v⟩, hgiven, hlabel⟩ := (label_mem_labels_nested h).1 hmem
  rcases key_of_given hgiven with ⟨field, rfl⟩ | ⟨n, rfl⟩
  · cases hlabel
  · cases hlabel

/-! ### Operators beside fields -/

theorem ne_none_of_mem_labels (key : Key) (hmem : key.label ∈ Entries.labels Key.label criteria) :
    criteria.get? key ≠ none := by
  obtain ⟨v, hv⟩ : ∃ v, criteria.get? key = some v := Entries.exists_get?_of_mem Key.label hmem
  rw [hv]
  exact Option.some_ne_none v

/-- Mappings of operators come to a mapping of operators. -/
theorem operator_of_mem_labels {maps : List Criteria}
    (hmaps : ∀ m ∈ maps, ∀ e ∈ m, e.1.isOperator = true) {l : Key.Label}
    (hl : l ∈ Entries.labels Key.label (Entries.mergeAll Key.label maps)) :
    (∃ op : Operator, l = (Key.comparison op).label) ∨ ∃ custom, l = .custom custom := by
  rw [Entries.mem_labels_mergeAll] at hl
  obtain ⟨⟨key, v⟩, he, rfl⟩ := List.mem_map.1 hl
  obtain ⟨m, hm, hem⟩ := List.mem_flatten.1 he
  have hoperator := hmaps m hm _ hem
  cases key with
  | field field => cases hoperator
  | index n => cases hoperator
  | comparison op => exact .inl ⟨op, rfl⟩
  | custom custom => exact .inr ⟨custom, rfl⟩

/-- Comparisons have the keys of operators, and a nested mapping those of fields, so that only a
comparison operator can meet a field. -/
theorem disjoint_labels_iff {maps : List Criteria}
    (hmaps : ∀ m ∈ maps, ∀ e ∈ m, e.1.isOperator = true)
    (h : query.criteria switches [] = .ok (inner, dropped)) :
    (∀ l ∈ Entries.labels Key.label (Entries.mergeAll Key.label maps),
        l ∉ Entries.labels Key.label inner) ↔
      ∀ op : Operator, Criteria.get? (Entries.mergeAll Key.label maps) (.comparison op) = none ∨
        inner.get? (.field op.name) = none := by
  constructor
  · intro hdisjoint op
    by_cases hop : (Key.comparison op).label ∈
        Entries.labels Key.label (Entries.mergeAll Key.label maps)
    · exact .inr (Entries.get?_eq_none Key.label (hdisjoint _ hop))
    · exact .inl (Entries.get?_eq_none Key.label hop)
  · intro hoperators l hl hinner
    rcases operator_of_mem_labels hmaps hl with ⟨op, rfl⟩ | ⟨custom, rfl⟩
    · rcases hoperators op with hnone | hnone
      · exact ne_none_of_mem_labels (.comparison op) hl hnone
      · exact ne_none_of_mem_labels (.field op.name) hinner hnone
    · exact custom_not_mem_labels h custom hinner

/-- Mappings of operators and a mapping of fields among them, written into each other. -/
theorem settled_beside_fields {earlier later : List Value} {operators : Criteria}
    (hvalues : ∀ v ∈ earlier ++ later, v.isMapping = true ∧ Demanded v)
    (hinner : entries.criteria switches [] = .ok (inner, notices))
    (hsettled : Criteria.settled (earlier ++ later) = some (.map operators)) :
    ∃ es, Criteria.settled (earlier ++ .map inner :: later) = some (.map es) ∧
      ((∀ key v, Criteria.get? operators key = some v → Criteria.get? es key = some v) ∧
        (∀ key v, inner.get? key = some v → Criteria.get? es key = some v) ∧
        es.length = operators.length + inner.length ↔
      ∀ op : Operator, Criteria.get? operators (.comparison op) = none ∨
        inner.get? (.field op.name) = none) := by
  have hne : earlier ++ later ≠ [] := by
    intro hnil
    rw [hnil] at hsettled
    cases hsettled
  have hmappings : ∀ v ∈ earlier ++ .map inner :: later, v.isMapping = true := by
    intro v hv
    rcases List.mem_append.1 hv with hv | hv
    · exact (hvalues v (List.mem_append_left _ hv)).1
    · rcases List.mem_cons.1 hv with rfl | hv
      · rfl
      · exact (hvalues v (List.mem_append_right _ hv)).1
  have hoperator : ∀ m ∈ earlier.map Value.entries ++ later.map Value.entries, ∀ e ∈ m,
      e.1.isOperator = true := by
    intro m hm e he
    rw [← List.map_append] at hm
    obtain ⟨v, hv, rfl⟩ := List.mem_map.1 hm
    exact ((hvalues v hv).2.isOperator_of_mem he).1
  have hes := Criteria.settled_of_isMapping (by simp) hmappings
  rw [Criteria.settled_of_isMapping hne fun v hv => (hvalues v hv).1, List.map_append] at hsettled
  rw [List.map_append, List.map_cons] at hes
  refine ⟨_, hes, ?_⟩
  rw [← Value.map.inj (Option.some.inj hsettled)]
  exact (Entries.kept_mergeAll_iff Key.label (earlier.map Value.entries) (later.map Value.entries)
    (nodup_labels_criteria hinner)).trans (disjoint_labels_iff hoperator hinner)

/-- A field that gets operators from comparisons and a nested mapping under its own name keeps all
of both, and has as many entries as both together, exactly if the nested mapping has no field
with the name of one of the operators. -/
theorem operators_beside_fields_kept_iff
    (hquery : query = before ++ (.name name, .nested entries) :: after)
    (hshape : entries.isArrayShaped = false) (hname : name ∉ ignored)
    (hkeys : ∀ entry ∈ before ++ after, entry.1 ≠ .name name)
    (hmaps : ∀ entry ∈ unignored ignored (before ++ after), ∀ v,
      given switches entry = some (.field name, v) → v.isMapping = true)
    (h : query.criteria switches ignored = .ok (criteria, dropped)) :
    ∃ inner notices others dropped', entries.criteria switches [] = .ok (inner, notices) ∧
      Query.criteria switches ignored (before ++ after) = .ok (others, dropped') ∧
      ∀ operators, others.get? (.field name) = some (.map operators) →
        ∃ es, criteria.get? (.field name) = some (.map es) ∧
          ((∀ key v, Criteria.get? operators key = some v → Criteria.get? es key = some v) ∧
            (∀ key v, inner.get? key = some v → Criteria.get? es key = some v) ∧
            es.length = operators.length + inner.length ↔
          ∀ op : Operator, Criteria.get? operators (.comparison op) = none ∨
            inner.get? (.field op.name) = none) := by
  obtain ⟨hread, inner, notices, hinner⟩ := exists_criteria_nested hquery hshape hname h
  have hsub : ∀ entry ∈ before ++ after, entry ∈ query := by
    intro entry hentry
    rw [hquery]
    rcases List.mem_append.1 hentry with hentry | hentry
    · exact List.mem_append_left _ hentry
    · exact List.mem_append_right _ (List.mem_cons_of_mem _ hentry)
  obtain ⟨others, dropped', hothers⟩ := exists_criteria_of_subset hsub h
  refine ⟨inner, notices, others, dropped', hinner, hothers, fun operators hoperators => ?_⟩
  have hvalues : ∀ v ∈ Criteria.valuesFor (.field name)
      ((unignored ignored (before ++ after)).filterMap (given switches)),
      v.isMapping = true ∧ Demanded v := by
    intro v hv
    obtain ⟨entry, hentry, hgiven⟩ := given_of_mem_valuesFor hv
    exact ⟨hmaps entry hentry v hgiven,
      demanded_of_given (hkeys entry (List.mem_filter.1 hentry).1) hgiven⟩
  rw [get?_eq_settled_given h hname, hquery, valuesFor_nested hread hname hinner]
  rw [get?_eq_settled_given hothers hname] at hoperators
  rw [unignored_append, List.filterMap_append, Criteria.valuesFor_append] at hvalues hoperators
  exact settled_beside_fields hvalues hinner hoperators

/-- A nested mapping under the name of a field, with a bound for the field on each side. -/
def boundsAround (parameter : String) : Query :=
  [(.name "f>", .text "5")] ++ (.name "f", .nested [(.name parameter, .text "1")]) ::
    [(.name "f<", .text "9")]

theorem operators_beside_fields_kept_bounds : ∃ criteria dropped es,
    (boundsAround "b>").criteria {} ["limit"] = .ok (criteria, dropped) ∧
      criteria.get? (.field "f") = some (.map es) ∧ es.length = 2 + 1 := by
  have hquery : (boundsAround "b>").criteria {} ["limit"] =
      .ok ([(.field "f", .map [(.comparison .ge, .int 5),
        (.field "b", .map [(.comparison .ge, .int 1)]), (.comparison .le, .int 9)])], []) := rfl
  have hkeys : ∀ entry ∈ ([(.name "f>", .text "5")] ++ [(.name "f<", .text "9")] : Query),
      entry.1 ≠ .name "f" := by
    intro entry hentry
    rcases List.mem_pair.1 hentry with rfl | rfl
    · decide
    · decide
  have hmaps : ∀ entry ∈
        unignored ["limit"] ([(.name "f>", .text "5")] ++ [(.name "f<", .text "9")]),
      ∀ v, given {} entry = some (.field "f", v) → v.isMapping = true := by
    intro entry hentry v hv
    rcases List.mem_pair.1 (List.mem_filter.1 hentry).1 with rfl | rfl
    · rw [← (Prod.mk.inj (Option.some.inj hv)).2]
      rfl
    · rw [← (Prod.mk.inj (Option.some.inj hv)).2]
      rfl
  obtain ⟨inner, notices, others, dropped', hinner, hothers, hkept⟩ :=
    operators_beside_fields_kept_iff rfl rfl (by decide) hkeys hmaps hquery
  have hfields : Query.criteria {} [] [(.name "b>", .text "1")] =
      .ok ([(.field "b", .map [(.comparison .ge, .int 1)])], []) := rfl
  have hoperators :
      Query.criteria {} ["limit"] ([(.name "f>", .text "5")] ++ [(.name "f<", .text "9")]) =
        .ok ([(.field "f", .map [(.comparison .ge, .int 5), (.comparison .le, .int 9)])], []) := rfl
  obtain ⟨rfl, -⟩ := Prod.mk.inj (Except.ok.inj (hinner.symm.trans hfields))
  obtain ⟨rfl, -⟩ := Prod.mk.inj (Except.ok.inj (hothers.symm.trans hoperators))
  obtain ⟨es, hes, hiff⟩ := hkept _ rfl
  refine ⟨_, _, es, hquery, hes, (hiff.2 fun op => .inr ?_).2.2⟩
  cases op <;> rfl

/-- A field with the name of an operator takes the place of its operand. -/
theorem operator_lost_beside_field :
    let operators : Criteria := [(.comparison .ge, .int 5), (.comparison .le, .int 9)]
    let fields : Criteria := [(.field "gte", .map [(.comparison .ge, .int 1)])]
    Query.criteria {} ["limit"] [(.name "f>", .text "5"), (.name "f<", .text "9")] =
        .ok ([(.field "f", .map operators)], []) ∧
      Query.criteria {} [] [(.name "gte>", .text "1")] = .ok (fields, []) ∧
      ∃ criteria dropped es,
        (boundsAround "gte>").criteria {} ["limit"] = .ok (criteria, dropped) ∧
        criteria.get? (.field "f") = some (.map es) ∧
        operators.get? (.comparison .ge) = some (.int 5) ∧
        Criteria.get? es (.comparison .ge) ≠ some (.int 5) ∧
        es.length ≠ operators.length + fields.length := by
  intro operators fields
  refine ⟨rfl, rfl, _, _, [(.comparison .ge, .map [(.comparison .ge, .int 1)]),
    (.comparison .le, .int 9)], rfl, rfl, rfl, ?_, by decide⟩
  intro h
  cases Option.some.inj h

end Query
end QueryCriteria
