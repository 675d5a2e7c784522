import QueryCriteria.Proofs.Configuration
import QueryCriteria.Proofs.GivenValues
import QueryCriteria.Proofs.Options

/-!
Reserved names.  The keywords and the names that a configuration ignores never become fields
at the top of the criteria, and filters never become options.  Below the top no name is
reserved.
-/
namespace QueryCriteria
namespace Query

variable {switches : Switches} {ignored : List String} {query : Query} {criteria : Criteria}
  {dropped : List Notice}

/-- Parameters that are ignored by their own name have no part in the criteria. -/
theorem criteria_congr {q₁ q₂ : Query} (h : q₁.unignored ignored = q₂.unignored ignored) :
    q₁.criteria switches ignored = q₂.criteria switches ignored := by
  unfold unignored at h
  rw [Query.criteria, Query.criteria, filtered, filtered, h]

/-- However a parameter is written, what it gives for an ignored field is left out. -/
theorem ignored_not_mem_labels (h : query.criteria switches ignored = .ok (criteria, dropped))
    {name : String} (hname : name ∈ ignored) :
    Key.Label.text name ∉ Entries.labels Key.label criteria := by
  intro hmem
  obtain ⟨entry, -, ⟨key, value⟩, hgiven, hkeeps, hlabel⟩ := (label_mem_labels_criteria h).1 hmem
  rcases key_of_given hgiven with ⟨field, rfl⟩ | ⟨n, rfl⟩
  · obtain rfl := Key.Label.text.inj hlabel
    have hcontains : ignored.contains field = true := List.contains_iff_mem.2 hname
    have hfalse : (!ignored.contains field) = true := hkeeps
    rw [hcontains] at hfalse
    cases hfalse
  · cases hlabel

/-- Every field that a parameter of a nested mapping gives a value for is a field of its
criteria. -/
theorem label_mem_labels_nested (h : query.criteria switches [] = .ok (criteria, dropped))
    {l : Key.Label} :
    l ∈ Entries.labels Key.label criteria ↔
      ∃ entry ∈ query, ∃ e, given switches entry = some e ∧ e.1.label = l := by
  rw [label_mem_labels_criteria h, unignored_nil]
  simp only [keeps_nil, true_and]

/-! ### One nested mapping among other parameters -/

section Nested

variable {before after entries : Query} {name : String}

theorem unignored_append : unignored ignored (before ++ after) =
    before.unignored ignored ++ after.unignored ignored :=
  List.filter_append before after

theorem unignored_append_cons (hname : name ∉ ignored) (value : QueryValue) :
    unignored ignored (before ++ (.name name, value) :: after) =
      before.unignored ignored ++ (.name name, value) :: after.unignored ignored := by
  have hcontains : ignored.contains name = false := by simpa using hname
  rw [unignored_append]
  refine congrArg (before.unignored ignored ++ ·) (List.filter_cons_of_pos ?_)
  show (!ignored.contains name) = true
  rw [hcontains]
  rfl

/-- A nested mapping under a name that is not ignored can be read by itself. -/
theorem exists_criteria_nested (hquery : query = before ++ (.name name, .nested entries) :: after)
    (hshape : entries.isArrayShaped = false) (hname : name ∉ ignored)
    (h : query.criteria switches ignored = .ok (criteria, dropped)) :
    entries.readShape = .ok false ∧
      ∃ inner notices, entries.criteria switches [] = .ok (inner, notices) := by
  obtain ⟨found, hfound, -⟩ := Fallible.map_eq_ok_iff.1 h
  obtain ⟨all, hall, -⟩ := Fallible.map_eq_ok_iff.1 hfound
  have hmem : (.name name, .nested entries) ∈ query.unignored ignored := by
    rw [hquery, unignored_append_cons hname]
    exact List.mem_append_right _ List.mem_cons_self
  obtain ⟨c, hc⟩ := contribution_ok_of_mem hall hmem
  obtain ⟨hread, inner, notices, hinner, -⟩ := exists_criteria_of_contribution hshape hc
  exact ⟨hread, inner, notices, hinner⟩

/-- Its criteria are one of the values for the name, at its place among the others. -/
theorem valuesFor_nested (hread : entries.readShape = .ok false) (hname : name ∉ ignored)
    {inner : Criteria} {notices : List Notice}
    (hinner : entries.criteria switches [] = .ok (inner, notices)) :
    Criteria.valuesFor (.field name)
        ((unignored ignored (before ++ (.name name, .nested entries) :: after)).filterMap
          (given switches)) =
      Criteria.valuesFor (.field name) ((before.unignored ignored).filterMap (given switches)) ++
        .map inner ::
          Criteria.valuesFor (.field name)
            ((after.unignored ignored).filterMap (given switches)) := by
  have hgiven : given switches (.name name, .nested entries) = some (.field name, .map inner) :=
    given_nested hread hinner (.name name)
  rw [unignored_append_cons hname, List.filterMap_append, List.filterMap_cons_some hgiven,
    Criteria.valuesFor_append, Criteria.valuesFor_cons, if_pos rfl]

/-- A nested mapping under a name that is not ignored can be read by itself, and where no
other parameter gives a value for that name, its criteria are the value of the name. -/
theorem get?_nested (hquery : query = before ++ (.name name, .nested entries) :: after)
    (hshape : entries.isArrayShaped = false) (hname : name ∉ ignored)
    (h : query.criteria switches ignored = .ok (criteria, dropped)) :
    ∃ inner notices, entries.criteria switches [] = .ok (inner, notices) ∧
      ((∀ entry ∈ before ++ after, ∀ e, given switches entry = some e →
        e.1.label ≠ .text name) → criteria.get? (.field name) = some (.map inner)) := by
  obtain ⟨hread, inner, notices, hinner⟩ := exists_criteria_nested hquery hshape hname h
  refine ⟨inner, notices, hinner, fun hothers => ?_⟩
  have hnone : ∀ part : Query, (∀ entry ∈ part, entry ∈ before ++ after) →
      Criteria.valuesFor (.field name) ((part.unignored ignored).filterMap (given switches)) =
        [] := by
    intro part hpart
    refine Criteria.valuesFor_eq_nil fun e he => ?_
    obtain ⟨entry, hentry, hgiven⟩ := List.mem_filterMap.1 he
    exact hothers entry (hpart entry (List.mem_filter.1 hentry).1) e hgiven
  rw [get?_criteria h hname, hquery, valuesFor_nested hread hname hinner,
    hnone before fun entry => List.mem_append_left _,
    hnone after fun entry => List.mem_append_right _]
  rfl

end Nested

end Query

namespace Config

/-- Reserved names do not interfere with filters.  The criteria depend on nothing but the
parameters that are not reserved, and the options on nothing but the keywords; no reserved
name is a field at the top of the criteria; and a nested mapping is read with no name
reserved, so that it keeps every field that its parameters give a value for. -/
theorem reserved_names_do_not_interfere (c : Config) :
    (∀ q₁ q₂ : Query, q₁.unignored c.ignoredFields = q₂.unignored c.ignoredFields →
      q₁.criteria c.switches c.ignoredFields = q₂.criteria c.switches c.ignoredFields) ∧
    (∀ q₁ q₂ : Query, (∀ name ∈ c.keywords.names, q₁.keyword? name = q₂.keyword? name) →
      Options.read c.keywords c.maxLimit q₁ = Options.read c.keywords c.maxLimit q₂) ∧
    (∀ (query : Query) criteria dropped,
      query.criteria c.switches c.ignoredFields = .ok (criteria, dropped) →
        ∀ name, name ∈ c.ignore ∨ name ∈ c.keywords.names →
          .text name ∉ Entries.labels Key.label criteria) ∧
    (∀ (ignored : List String) (before after entries : Query) name criteria dropped,
      entries.isArrayShaped = false → name ∉ ignored →
      Query.criteria c.switches ignored (before ++ (.name name, .nested entries) :: after) =
        .ok (criteria, dropped) →
      ∃ inner notices, entries.criteria c.switches [] = .ok (inner, notices) ∧
        (∀ entry ∈ entries, ∀ e, Query.given c.switches entry = some e →
          e.1.label ∈ Entries.labels Key.label inner) ∧
        ((∀ entry ∈ before ++ after, ∀ e, Query.given c.switches entry = some e →
          e.1.label ≠ .text name) → criteria.get? (.field name) = some (.map inner))) := by
  refine ⟨fun _ _ => Query.criteria_congr, fun _ _ h => Options.read_congr h _, ?_, ?_⟩
  · intro query criteria dropped h name hname
    exact Query.ignored_not_mem_labels h (mem_ignoredFields.2 hname)
  · intro ignored before after entries name criteria dropped hshape hname h
    obtain ⟨inner, notices, hinner, hget⟩ := Query.get?_nested rfl hshape hname h
    refine ⟨inner, notices, hinner, ?_, hget⟩
    intro entry hentry e hgiven
    exact (Query.label_mem_labels_nested hinner).2 ⟨entry, hentry, e, hgiven, rfl⟩

/-- A configuration with one keyword renamed and one more name ignored. -/
def renamedOffset : Config := { keywords := { offset := "$offset" }, ignore := ["envelope"] }

/-- Parameters with reserved names, to be nested. -/
def reservedEntries : Query := [(.name "limit>", .text "5"), (.name "envelope", .text "")]

theorem reserved_names_below_order :
    let around : Query := [(.name "limit>", .text "5")]
    let query : Query := around ++ (.name "order", .nested reservedEntries) ::
      [(.name "$offset", .text "")]
    ∃ criteria dropped inner notices,
      query.criteria renamedOffset.switches renamedOffset.ignoredFields = .ok (criteria, dropped) ∧
      query.criteria renamedOffset.switches renamedOffset.ignoredFields =
        Query.criteria renamedOffset.switches renamedOffset.ignoredFields
          (around ++ [(.name "order", .nested reservedEntries)]) ∧
      .text "limit" ∉ Entries.labels Key.label criteria ∧
      reservedEntries.criteria renamedOffset.switches [] = .ok (inner, notices) ∧
      .text "limit" ∈ Entries.labels Key.label inner ∧
      criteria.get? (.field "order") = some (.map inner) := by
  intro around query
  obtain ⟨hsame, -, htop, hnested⟩ := reserved_names_do_not_interfere renamedOffset
  have hcriteria : query.criteria renamedOffset.switches renamedOffset.ignoredFields =
      .ok ([(.field "order", .map [(.field "limit", .map [(.comparison .ge, .int 5)]),
        (.field "envelope", .map [(.comparison .is, .bool true)])])], []) := rfl
  obtain ⟨inner, notices, hinner, hkept, hget⟩ := hnested renamedOffset.ignoredFields around
    [(.name "$offset", .text "")] reservedEntries "order" _ _ rfl (by decide) hcriteria
  refine ⟨_, _, inner, notices, hcriteria, hsame _ _ rfl, ?_, hinner, ?_, hget ?_⟩
  · exact htop query _ _ hcriteria "limit" (.inr (by decide))
  · exact hkept (.name "limit>", .text "5") List.mem_cons_self _ rfl
  · intro entry hentry e hgiven
    rcases List.mem_pair.1 hentry with rfl | rfl
    · obtain rfl := Option.some.inj hgiven
      decide
    · obtain rfl := Option.some.inj hgiven
      decide

end Config
end QueryCriteria
