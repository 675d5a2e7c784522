import QueryCriteria.Proofs.CriteriaTrees

/-!
Rendered criteria of a query, entry by entry.  Nothing is lost unless a client's own operator
stands beside a field that starts with a colon, and a comparison names no such field: it is the
key of a nested mapping, which the criteria take over as it is.
-/
namespace QueryCriteria

theorem Operator.name_ne_customName (op : Operator) (name : String) : op.name ≠ customName name := by
  intro h
  have hhead : op.name.toList.head? = some ':' := by
    rw [h, customName, String.toList_ofList]
    rfl
  cases op <;> exact absurd hhead (by decide)

namespace Query

open Expression (IsField)

variable {switches : Switches} {ignored : List String} {query : Query} {criteria es : Criteria}
  {dropped : List Notice} {path : List Step} {name : String}

theorem HasParameter.mono {p q : QueryKey × QueryValue → Prop} {query : Query}
    {labels : List Key.Label} (h : query.HasParameter p labels) (hpq : ∀ entry, p entry → q entry) :
    query.HasParameter q labels := by
  induction h with
  | here hentry hp => exact .here hentry (hpq _ hp)
  | inside hentry hshape hlabel _ ih => exact .inside hentry hshape hlabel ih

/-- A mapping under a name that is no list in disguise. -/
def IsNestedUnder (name : String) (entry : QueryKey × QueryValue) : Prop :=
  ∃ entries, entry = (.name name, .nested entries) ∧ isArrayShaped entries = false

/-- Of the names with a colon in front only nested mappings give any. -/
theorem isNestedUnder_of_givesWritten {entry : QueryKey × QueryValue}
    (h : GivesWritten (Operator.customName name) entry) :
    IsNestedUnder (Operator.customName name) entry := by
  cases h with
  | nested hshape => exact ⟨_, rfl, hshape⟩
  | tested hcompared hfield hname hstart htest =>
    rw [Operator.customName, String.toList_ofList] at hname
    exact absurd (List.cons.inj hname).1 (by decide)

theorem not_isField_customName (name : String) : ¬IsField (Operator.customName name).toList := by
  intro h
  rw [Operator.customName, String.toList_ofList] at h
  exact absurd (h.plain ':' List.mem_cons_self) (by decide)

theorem exists_field_of_clash (h : es.Clash name) :
    ∃ value, (Key.field (Operator.customName name), value) ∈ es := by
  obtain ⟨⟨key, value⟩, he, hlabel⟩ := List.mem_map.1 h.2
  have hlabel : key.label = .text (Operator.customName name) := hlabel
  cases key with
  | field text =>
    obtain rfl := Key.Label.text.inj hlabel
    exact ⟨value, he⟩
  | comparison op => exact absurd (Key.Label.text.inj hlabel) (op.name_ne_customName name)
  | index n => cases hlabel
  | custom other => cases hlabel

/-- The field of a clash is the key of a nested mapping at the same place of the query. -/
theorem nested_of_clash (h : query.criteria switches ignored = .ok (criteria, dropped))
    (hes : (Value.map criteria).at? path = some (.map es)) (hclash : es.Clash name) :
    ∃ keys : List Key, path = keys.map Step.entry ∧
      query.HasParameter (IsNestedUnder (Operator.customName name)) (keys.map Key.label) := by
  obtain ⟨keys, rfl⟩ := (isTree_criteria h).path_eq_keys hes
  have hname := Value.hasName_of_at? hes (exists_field_of_clash hclash)
  refine ⟨keys, rfl, ?_⟩
  rcases name_of_criteria h hname with hfield | hwritten
  · exact absurd hfield (not_isField_customName name)
  · exact hwritten.mono fun entry => isNestedUnder_of_givesWritten

/-- The rendered criteria of a query have at every level as many entries as the criteria exactly
if nowhere a client's own operator stands beside a field with its rendered name.  Wherever they
do, the query has a nested mapping under that name at the same place; so nothing is lost from a
query without such mappings. -/
theorem rendered_entries_kept_iff
    (h : query.criteria switches ignored = .ok (criteria, dropped)) :
    ((Value.map criteria).KeepsEntries ↔
        ∀ path es, (Value.map criteria).at? path = some (.map es) → ∀ name, ¬Criteria.Clash es name) ∧
      (∀ path es name, (Value.map criteria).at? path = some (.map es) → Criteria.Clash es name →
        ∃ keys : List Key, path = keys.map Step.entry ∧
          query.HasParameter (IsNestedUnder (Operator.customName name)) (keys.map Key.label)) ∧
      ((∀ name labels, ¬query.HasParameter (IsNestedUnder (Operator.customName name)) labels) →
        (Value.map criteria).KeepsEntries) := by
  have hiff := Value.keepsEntries_iff (isTree_criteria h).distinctKeys
  refine ⟨hiff, fun path es name hes hclash => nested_of_clash h hes hclash, fun hnone => ?_⟩
  rw [hiff]
  intro path es hes name hclash
  obtain ⟨keys, -, hnested⟩ := nested_of_clash h hes hclash
  exact hnone name _ hnested

/-- A client's own operator beside a field of a nested mapping. -/
def ownBesideNested : Query :=
  [(.name "a", .nested [(.name "b>", .text "1")]), (.name "a:n", .text "5")]

theorem rendered_entries_kept_beside_field :
    ownBesideNested.criteria {} [] = .ok ([(.field "a", .map [(.field "b",
      .map [(.comparison .ge, .int 1)]), (.custom "n", .int 5)])], []) ∧
    (Value.map [(.field "a", .map [(.field "b",
      .map [(.comparison .ge, .int 1)]), (.custom "n", .int 5)])]).KeepsEntries := by
  have hcriteria : ownBesideNested.criteria {} [] = .ok ([(.field "a", .map [(.field "b",
      .map [(.comparison .ge, .int 1)]), (.custom "n", .int 5)])], []) := rfl
  refine ⟨hcriteria, (rendered_entries_kept_iff hcriteria).2.2 fun name labels hnested => ?_⟩
  have hcolon : ∀ text : String, text.toList.head? ≠ some ':' → Operator.customName name ≠ text := by
    rintro text hhead rfl
    rw [Operator.customName, String.toList_ofList] at hhead
    exact hhead rfl
  -- the only nested mapping is the one under the name a, and nothing in it is nested
  cases hnested with
  | here hentry hp =>
    obtain ⟨entries, rfl, -⟩ := hp
    rcases List.mem_cons.1 hentry with he | he
    · exact hcolon "a" (by decide) (QueryKey.name.inj (Prod.mk.inj he).1)
    · cases (Prod.mk.inj (List.mem_singleton.1 he)).2
  | inside hentry hshape hlabel hp =>
    rcases List.mem_cons.1 hentry with he | he
    · obtain rfl := QueryValue.nested.inj (Prod.mk.inj he).2
      cases hp with
      | here hentry hp =>
        obtain ⟨entries, rfl, -⟩ := hp
        cases (Prod.mk.inj (List.mem_singleton.1 hentry)).2
      | inside hentry => cases (Prod.mk.inj (List.mem_singleton.1 hentry)).2
    · cases (Prod.mk.inj (List.mem_singleton.1 he)).2

/-- A client's own operator beside a field that is named like it when it is rendered. -/
def ownBesideNamesake : Query :=
  [(.name "a", .nested [(.name ":n", .nested [(.name "b>", .text "1")])]), (.name "a:n", .text "5")]

theorem entry_lost_to_own_operator :
    ownBesideNamesake.criteria {} [] =
      .ok ([(.field "a", .map [(.field ":n", .map [(.field "b", .map [(.comparison .ge, .int 1)])]),
        (.custom "n", .int 5)])], []) ∧
    ¬(Value.map [(.field "a", .map [(.field ":n",
        .map [(.field "b", .map [(.comparison .ge, .int 1)])]),
        (.custom "n", .int 5)])]).KeepsEntries := by
  refine ⟨rfl, fun hkeeps => ?_⟩
  obtain ⟨rendered, hrendered, hlength⟩ := hkeeps [.entry (.field "a")] _ rfl
  have hone : rendered = [(.field ":n", .int 5)] :=
    Value.map.inj (Option.some.inj (hrendered.symm.trans rfl))
  rw [hone] at hlength
  exact absurd hlength (by decide)

end Query
end QueryCriteria
