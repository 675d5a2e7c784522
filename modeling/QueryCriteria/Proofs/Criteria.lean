import QueryCriteria.Proofs.Written

/-!
Criteria of queries that the flat codec read.  Every parameter of such a query is one
comparison, and what the comparisons demand is written field by field: a field that is new
is appended, and mappings for one field become one mapping.
-/
namespace QueryCriteria

namespace Criteria

/-- More values, one after the other. -/
def addAll (criteria : Criteria) (values : List (Key × Value)) : Criteria :=
  values.foldl (fun criteria entry => criteria.add entry.1 entry.2) criteria

theorem ofValues_eq_addAll (values : List (Key × Value)) : ofValues values = addAll [] values := rfl

theorem addAll_append (criteria : Criteria) (xs ys : List (Key × Value)) :
    criteria.addAll (xs ++ ys) = (criteria.addAll xs).addAll ys := by
  rw [addAll, List.foldl_append]
  rfl

variable {criteria : Criteria} {key : Key}

theorem add_new (h : key.label ∉ Entries.labels Key.label criteria) (value : Value) :
    criteria.add key value = criteria ++ [(key, value)] := by
  have hget : criteria.get? key = none := Entries.get?_eq_none Key.label h
  unfold add
  rw [hget]
  exact Entries.insert_of_not_mem Key.label h value

theorem add_merge (h : key.label ∉ Entries.labels Key.label criteria) (old new : List (Key × Value)) :
    add (criteria ++ [(key, .map old)]) key (.map new) =
      criteria ++ [(key, .map (Entries.merge Key.label old new))] := by
  have hget : get? (criteria ++ [(key, .map old)]) key = some (.map old) := by
    rw [get?, Entries.get?_append, Entries.get?_eq_none Key.label h, Entries.get?, if_pos rfl]
    rfl
  unfold add
  rw [hget]
  exact Entries.insert_append_cons Key.label h rfl _ _ []

/-- Mappings for one field are written into the one that is there. -/
theorem addAll_merge (h : key.label ∉ Entries.labels Key.label criteria)
    (old : List (Key × Value)) (news : List (List (Key × Value))) :
    addAll (criteria ++ [(key, .map old)]) (news.map fun new => (key, .map new)) =
      criteria ++ [(key, .map (Entries.merge Key.label old news.flatten))] := by
  induction news generalizing old with
  | nil => rfl
  | cons new news ih =>
    rw [List.map_cons, addAll, List.foldl_cons, add_merge h]
    refine (ih (Entries.merge Key.label old new)).trans ?_
    rw [List.flatten_cons, Entries.merge, Entries.merge, Entries.merge, List.foldl_append]

/-- Mappings for a new field that have no entry in common stand one after the other. -/
theorem addAll_block (h : key.label ∉ Entries.labels Key.label criteria)
    {first : List (Key × Value)} {rest : List (List (Key × Value))}
    (hnd : (Entries.labels Key.label (first ++ rest.flatten)).Nodup) :
    addAll criteria ((first :: rest).map fun entries => (key, .map entries)) =
      criteria ++ [(key, .map (first ++ rest.flatten))] := by
  rw [List.map_cons, addAll, List.foldl_cons, add_new h]
  refine (addAll_merge h first rest).trans ?_
  rw [Entries.merge_of_nodup Key.label hnd]

/-- Single entries for one field are written one after the other into one mapping. -/
theorem ofValues_entries (key : Key) {es : List (Key × Value)} (h : es ≠ []) :
    ofValues (es.map fun e => (key, .map [e])) = [(key, .map (Entries.ofList Key.label es))] := by
  obtain ⟨e, es, rfl⟩ := List.exists_cons_of_ne_nil h
  have hmap : es.map (fun e => (key, Value.map [e])) =
      (es.map fun e => [e]).map fun new => (key, .map new) := by
    rw [List.map_map]
    rfl
  have hflatten : (es.map fun e => [e]).flatten = es := by
    rw [← List.flatMap_def]
    exact List.flatMap_singleton' es
  rw [ofValues_eq_addAll, List.map_cons, addAll, List.foldl_cons, hmap]
  show addAll ([] ++ [(key, .map [e])]) _ = _
  rw [addAll_merge List.not_mem_nil, hflatten]
  rfl

end Criteria

namespace Query

variable {switches : Switches} {ignored : List String}

theorem flattenItems_texts (values : List (List Char)) :
    QueryValue.flattenItems (values.map fun value => .text (String.ofList value)) = values := by
  induction values with
  | nil => rfl
  | cons value values ih =>
    rw [List.map_cons, QueryValue.flattenItems, ih, QueryValue.flatten, String.toList_ofList]

/-- The values of a name count as one text with commas in it. -/
theorem flatten_held (values : List (List Char)) :
    (Flat.held values).flatten = Text.joinWith ',' values := by
  match values with
  | [] => rfl
  | [value] => exact String.toList_ofList
  | value :: next :: values =>
    show Text.joinWith ',' (QueryValue.flattenItems _) = _
    rw [flattenItems_texts]

theorem joinedText_held (values : List (List Char)) :
    (Flat.held values).joinedText = .ok (Text.joinWith ',' values) := by
  refine QueryValue.joinedText_eq_ok_iff.2 ⟨?_, flatten_held values⟩
  rw [QueryValue.integers_held]
  exact nofun

/-- What a comparison contributes. -/
def demand (c : Comparison) : Contribution :=
  { found := some (.field c.field, c.value), notices := [] }

/-- What a parameter contributes that may be no comparison. -/
def taken (key : QueryKey) : Option Comparison → Contribution
  | some c => demand c
  | none => { found := none, notices := [.unreadable key] }

theorem contribution_held {key : List Char} {values : List (List Char)} {found : Option Comparison}
    (h : Comparison.parse switches (String.ofList key)
      (String.ofList (Text.joinWith ',' values)) = .ok found) :
    contribution switches (Flat.nameOf key) (Flat.held values) =
      .ok (taken (Flat.nameOf key) found) := by
  have hscalar : contribution switches (Flat.nameOf key) (Flat.held values) =
      scalar switches (Flat.nameOf key) (Flat.held values) := by
    rcases Flat.held_texts values with ⟨s, hs⟩ | ⟨items, hs, -⟩
    · rw [hs, contribution]
      intro entries he
      cases he
    · rw [hs, contribution]
      intro entries he
      cases he
  rw [hscalar, scalar, Flat.nameOf, texts_name (joinedText_held values)]
  show (Comparison.parse switches (String.ofList key) _).map _ = _
  rw [h]
  cases found <;> rfl

theorem contributions_cons {key : QueryKey} {value : QueryValue} {c : Contribution}
    (h : contribution switches key value = .ok c) (entries : Query) :
    contributions switches ((key, value) :: entries) =
      (contributions switches entries).map fun rest => c :: rest := by
  rw [contributions, h]
  cases contributions switches entries <;> rfl

/-- The value of an ignored parameter has no part in the criteria. -/
theorem criteria_insert_ignored {name : String} (h : name ∈ ignored) (query : Query)
    (value : QueryValue) :
    criteria switches ignored (query.insert (.name name) value) =
      criteria switches ignored query := by
  have hfilter : (query.insert (.name name) value).filter (fun e => !isIgnored ignored e.1) =
      query.filter fun e => !isIgnored ignored e.1 := by
    refine Entries.filter_insert id ?_ value query
    intro e he
    have hkey : e.1 = .name name := he
    have hcontains : ignored.contains name = true := List.contains_iff_mem.2 h
    rw [hkey, isIgnored, hcontains]
    rfl
  rw [criteria, criteria, filtered, filtered, hfilter]

/-- The criteria of a query with a single parameter, which is not ignored. -/
theorem criteria_of_single {key : List Char} {values : List (List Char)}
    {found : Option Comparison} (h : Comparison.parse switches (String.ofList key)
      (String.ofList (Text.joinWith ',' values)) = .ok found)
    (hkey : String.ofList key ∉ ignored) (hfield : ∀ c ∈ found, c.field ∉ ignored) :
    criteria switches ignored [(Flat.nameOf key, Flat.held values)] =
      .ok (found.toList.map fun c => (.field c.field, c.value),
        if found.isNone then [.unreadable (Flat.nameOf key)] else []) := by
  have hfilter : [(Flat.nameOf key, Flat.held values)].filter
      (fun entry => !isIgnored ignored entry.1) = [(Flat.nameOf key, Flat.held values)] := by
    refine List.filter_cons_of_pos ?_
    show (!ignored.contains (String.ofList key)) = true
    simpa using hkey
  rw [criteria, filtered, hfilter, contributions_cons (contribution_held h)]
  cases found with
  | none => rfl
  | some c =>
    have hkeeps : keepsField ignored (taken (Flat.nameOf key) (some c)) = true := by
      show (!ignored.contains c.field) = true
      simpa using hfield c rfl
    show Except.ok (Contribution.criteria (List.filter _ [_]),
      Contribution.allNotices (List.filter _ [_])) = _
    rw [List.filter_cons_of_pos hkeeps]
    rfl

section Comparisons

variable {β : Type} {params : List β} {key : β → List Char} {values : β → List (List Char)}
  {give : β → Comparison}

theorem contributions_of_comparisons
    (h : ∀ p ∈ params, Comparison.parse switches (String.ofList (key p))
      (String.ofList (Text.joinWith ',' (values p))) = .ok (some (give p))) :
    contributions switches (params.map fun p => (Flat.nameOf (key p), Flat.held (values p))) =
      .ok (params.map fun p => demand (give p)) := by
  induction params with
  | nil => rfl
  | cons p params ih =>
    rw [List.map_cons, contributions_cons (contribution_held (h p List.mem_cons_self)),
      ih fun q hq => h q (List.mem_cons_of_mem _ hq)]
    rfl

/-- The criteria of a query whose parameters are comparisons, one each, that are not
ignored. -/
theorem criteria_of_comparisons
    (h : ∀ p ∈ params, Comparison.parse switches (String.ofList (key p))
      (String.ofList (Text.joinWith ',' (values p))) = .ok (some (give p)))
    (hkey : ∀ p ∈ params, String.ofList (key p) ∉ ignored)
    (hfield : ∀ p ∈ params, (give p).field ∉ ignored) :
    criteria switches ignored (params.map fun p => (Flat.nameOf (key p), Flat.held (values p))) =
      .ok (Criteria.ofValues (params.map fun p => (.field (give p).field, (give p).value)), []) := by
  have hfilter : (params.map fun p => (Flat.nameOf (key p), Flat.held (values p))).filter
      (fun entry => !isIgnored ignored entry.1) =
      params.map fun p => (Flat.nameOf (key p), Flat.held (values p)) := by
    rw [List.filter_eq_self]
    intro entry he
    obtain ⟨p, hp, rfl⟩ := List.mem_map.1 he
    show (!ignored.contains (String.ofList (key p))) = true
    simpa using hkey p hp
  have hkept : (params.map fun p => demand (give p)).filter (keepsField ignored) =
      params.map fun p => demand (give p) := by
    rw [List.filter_eq_self]
    intro c hc
    obtain ⟨p, hp, rfl⟩ := List.mem_map.1 hc
    show (!ignored.contains (give p).field) = true
    simpa using hfield p hp
  have hfound : (params.map fun p => demand (give p)).filterMap (·.found) =
      params.map fun p => (.field (give p).field, (give p).value) := by
    rw [List.filterMap_map]
    exact congrFun List.filterMap_eq_map params
  have hnotices : (params.map fun p => demand (give p)).flatMap (·.notices) = [] := by
    rw [List.flatMap_eq_nil_iff]
    intro c hc
    obtain ⟨p, -, rfl⟩ := List.mem_map.1 hc
    rfl
  rw [criteria, filtered, hfilter, contributions_of_comparisons h]
  show Except.ok (Criteria.ofValues ((List.filter _ _).filterMap _),
    (List.filter _ _).flatMap _) = _
  rw [hkept, hfound, hnotices]

end Comparisons
end Query
end QueryCriteria
