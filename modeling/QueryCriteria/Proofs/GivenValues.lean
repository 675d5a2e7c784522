import QueryCriteria.Proofs.FieldValues
import QueryCriteria.Proofs.Parameters
import Mathlib.Tactic.Push

/-!
What the parameters of a query give.  Each parameter gives a value for at most one field, by
itself and whatever the other parameters are, and the criteria are these values written one
after the other.  A nested mapping gives its own criteria, in which no name is ignored.
-/
namespace QueryCriteria
namespace Query

variable {switches : Switches} {ignored : List String}

/-- The field and the value that a parameter gives. -/
def given (switches : Switches) (entry : QueryKey × QueryValue) : Option (Key × Value) :=
  match contribution switches entry.1 entry.2 with
  | .ok c => c.found
  | .error _ => none

def keeps (ignored : List String) (e : Key × Value) : Bool :=
  match e.1 with
  | .field name => !ignored.contains name
  | _ => true

theorem filterMap_found {query : Query} {found : List Contribution}
    (h : contributions switches query = .ok found) :
    found.filterMap (·.found) = query.filterMap (given switches) := by
  induction query generalizing found with
  | nil =>
    obtain rfl := Except.ok.inj h
    rfl
  | cons entry query ih =>
    obtain ⟨key, value⟩ := entry
    rw [contributions] at h
    split at h
    · cases h
    · next first hfirst =>
      split at h
      · cases h
      · next rest hrest =>
        obtain rfl := Except.ok.inj h
        have hgiven : given switches (key, value) = first.found := by
          rw [given, hfirst]
        rw [List.filterMap_cons, List.filterMap_cons, hgiven, ih hrest]

theorem contribution_ok_of_mem {query : Query} {found : List Contribution}
    (h : contributions switches query = .ok found) {entry : QueryKey × QueryValue}
    (he : entry ∈ query) : ∃ c, contribution switches entry.1 entry.2 = .ok c := by
  induction query generalizing found with
  | nil => cases he
  | cons first query ih =>
    obtain ⟨key, value⟩ := first
    rw [contributions] at h
    split at h
    · cases h
    · next c hc =>
      split at h
      · cases h
      · next rest hrest =>
        rcases List.mem_cons.1 he with rfl | he
        · exact ⟨c, hc⟩
        · exact ih hrest he

theorem filterMap_found_filter (found : List Contribution) :
    (found.filter (keepsField ignored)).filterMap (·.found) =
      (found.filterMap (·.found)).filter (keeps ignored) := by
  rw [List.filterMap_filter, List.filter_filterMap]
  refine List.filterMap_congr fun c _ => ?_
  unfold keepsField
  cases hfound : c.found with
  | none => rfl
  | some e =>
    obtain ⟨key, value⟩ := e
    cases key <;> rfl

/-- The criteria of a query are the values that its parameters give. -/
theorem criteria_eq_ofValues {query : Query} {criteria : Criteria} {dropped : List Notice}
    (h : query.criteria switches ignored = .ok (criteria, dropped)) :
    criteria = Criteria.ofValues
      (((query.unignored ignored).filterMap (given switches)).filter (keeps ignored)) := by
  obtain ⟨found, hfound, h⟩ := Fallible.map_eq_ok_iff.1 h
  obtain ⟨all, hall, rfl⟩ := Fallible.map_eq_ok_iff.1 hfound
  obtain ⟨rfl, -⟩ := Prod.mk.inj h
  rw [Contribution.criteria, filterMap_found_filter, filterMap_found hall]
  rfl

/-! ### Nested mappings -/

theorem unignored_nil (query : Query) : query.unignored [] = query := by
  rw [unignored, List.filter_eq_self]
  intro entry _
  cases entry.1 <;> rfl

theorem keeps_nil (e : Key × Value) : keeps [] e = true := by
  unfold keeps
  split <;> rfl

/-- The contribution of a nested mapping, unless it is a list in disguise, is its criteria with
nothing ignored. -/
theorem contribution_nested (key : QueryKey) (entries : Query) :
    contribution switches key (.nested entries) =
      entries.readShape.bind fun isArray =>
        if isArray then scalar switches key (.nested entries)
        else
          (entries.criteria switches []).map fun inner =>
            { found := some (fieldOf key, .map inner.1), notices := inner.2 } := by
  have hkept : ∀ found : List Contribution, found.filter (keepsField []) = found := by
    intro found
    rw [List.filter_eq_self]
    intro c _
    unfold keepsField
    split <;> rfl
  have hunignored : entries.filter (fun entry => !isIgnored [] entry.1) = entries :=
    unignored_nil entries
  have hinner : (contributions switches entries).map (fun inner => Contribution.mk
      (some (fieldOf key, .map (Contribution.criteria inner))) (Contribution.allNotices inner)) =
      (entries.criteria switches []).map fun inner =>
        Contribution.mk (some (fieldOf key, .map inner.1)) inner.2 := by
    rw [criteria, filtered, hunignored]
    cases contributions switches entries with
    | error fault => rfl
    | ok found =>
      show _ = Except.ok (Contribution.mk
        (some (fieldOf key, .map (Contribution.criteria (found.filter (keepsField [])))))
        (Contribution.allNotices (found.filter (keepsField []))))
      rw [hkept]
      rfl
  rw [contribution, hinner]

/-- A nested mapping that is read is no list in disguise, and its criteria can be read by
themselves. -/
theorem exists_criteria_of_contribution {entries : Query} (h : entries.isArrayShaped = false)
    {key : QueryKey} {c : Contribution}
    (hc : contribution switches key (.nested entries) = .ok c) :
    entries.readShape = .ok false ∧ ∃ inner dropped,
      entries.criteria switches [] = .ok (inner, dropped) ∧
        c = { found := some (fieldOf key, .map inner), notices := dropped } := by
  rw [contribution_nested] at hc
  obtain ⟨isArray, hread, hc⟩ := Fallible.bind_eq_ok_iff.1 hc
  obtain rfl : isArray = false := (readShape_eq_ok_iff.1 hread).2.symm.trans h
  obtain ⟨⟨inner, dropped⟩, hinner, rfl⟩ := Fallible.map_eq_ok_iff.1 hc
  exact ⟨hread, inner, dropped, hinner, rfl⟩

theorem given_nested {entries : Query} (h : entries.readShape = .ok false) {inner : Criteria}
    {dropped : List Notice} (hinner : entries.criteria switches [] = .ok (inner, dropped))
    (key : QueryKey) :
    given switches (key, .nested entries) = some (fieldOf key, .map inner) := by
  have hcontribution : contribution switches key (.nested entries) =
      .ok { found := some (fieldOf key, .map inner), notices := dropped } := by
    rw [contribution_nested, h]
    show (entries.criteria switches []).map _ = _
    rw [hinner]
    rfl
  rw [given, hcontribution]

/-! ### One parameter -/

/-- A parameter that is read as one comparison: all but nested mappings that are no lists in
disguise. -/
def IsCompared (value : QueryValue) : Prop :=
  ∀ entries, value = .nested entries → isArrayShaped entries = true

theorem scalar_of_isCompared {value : QueryValue} (h : IsCompared value) {key : QueryKey}
    {c : Contribution} (hc : contribution switches key value = .ok c) :
    scalar switches key value = .ok c := by
  cases value with
  | nested entries =>
    rw [contribution_nested] at hc
    obtain ⟨isArray, hread, hc⟩ := Fallible.bind_eq_ok_iff.1 hc
    obtain rfl : isArray = true := (readShape_eq_ok_iff.1 hread).2.symm.trans (h entries rfl)
    exact hc
  | null | bool | int | float | text | list | tuple => exact hc

/-- A parameter gives the value of its comparison for the field that it compares, or the criteria
of its entries for the field that its key names. -/
theorem cases_of_given {entry : QueryKey × QueryValue} {e : Key × Value}
    (h : given switches entry = some e) :
    (IsCompared entry.2 ∧ ∃ text c, text.toList = entry.1.display ∧
      Comparison.parse switches text (String.ofList entry.2.flatten) = .ok (some c) ∧
      e = (.field c.field, c.value)) ∨
    ∃ entries inner dropped, entry.2 = .nested entries ∧ isArrayShaped entries = false ∧
      criteria switches [] entries = .ok (inner, dropped) ∧ e = (fieldOf entry.1, .map inner) := by
  unfold given at h
  split at h
  · next c hc =>
    by_cases hcompared : IsCompared entry.2
    · obtain ⟨⟨text, joined⟩, htexts, hc⟩ :=
        Fallible.bind_eq_ok_iff.1 (scalar_of_isCompared hcompared hc)
      obtain ⟨htext, rfl⟩ := eq_of_texts htexts
      obtain ⟨found, hfound, rfl⟩ := Fallible.map_eq_ok_iff.1 hc
      cases found with
      | none => cases h
      | some comparison =>
        exact .inl ⟨hcompared, text, comparison, htext, hfound, (Option.some.inj h).symm⟩
    · obtain ⟨entries, hentries, hshape⟩ : ∃ entries, entry.2 = .nested entries ∧
          isArrayShaped entries = false := by
        rw [IsCompared] at hcompared
        push Not at hcompared
        obtain ⟨entries, hentries, hshape⟩ := hcompared
        exact ⟨entries, hentries, Bool.eq_false_iff.2 hshape⟩
      rw [hentries] at hc
      obtain ⟨-, inner, dropped, hinner, rfl⟩ := exists_criteria_of_contribution hshape hc
      exact .inr ⟨entries, inner, dropped, hentries, hshape, hinner, (Option.some.inj h).symm⟩
  · cases h

/-- Parameters give values for fields, never for operators. -/
theorem key_of_given {entry : QueryKey × QueryValue} {key : Key} {value : Value}
    (h : given switches entry = some (key, value)) :
    (∃ name, key = .field name) ∨ ∃ n, key = .index n := by
  rcases cases_of_given h with ⟨-, text, c, -, -, he⟩ | ⟨entries, inner, dropped, -, -, -, he⟩
  · exact .inl ⟨c.field, (Prod.mk.inj he).1⟩
  · rw [(Prod.mk.inj he).1]
    cases entry.1 with
    | name text => exact .inl ⟨text, rfl⟩
    | index n => exact .inr ⟨n, rfl⟩

/-! ### The fields of the criteria -/

theorem label_mem_labels_criteria {query : Query} {criteria : Criteria} {dropped : List Notice}
    (h : query.criteria switches ignored = .ok (criteria, dropped)) {l : Key.Label} :
    l ∈ Entries.labels Key.label criteria ↔
      ∃ entry ∈ query.unignored ignored, ∃ e, given switches entry = some e ∧
        keeps ignored e = true ∧ e.1.label = l := by
  rw [criteria_eq_ofValues h, Criteria.label_mem_labels_ofValues]
  simp only [List.mem_filter, List.mem_filterMap]
  constructor
  · rintro ⟨e, ⟨⟨entry, hentry, hgiven⟩, hkeeps⟩, hl⟩
    exact ⟨entry, hentry, e, hgiven, hkeeps, hl⟩
  · rintro ⟨entry, hentry, e, hgiven, hkeeps, hl⟩
    exact ⟨e, ⟨⟨entry, hentry, hgiven⟩, hkeeps⟩, hl⟩

/-- The value of a field is made of the values that are given for it. -/
theorem get?_criteria {query : Query} {criteria : Criteria} {dropped : List Notice}
    (h : query.criteria switches ignored = .ok (criteria, dropped)) {name : String}
    (hname : name ∉ ignored) :
    criteria.get? (.field name) =
      (Criteria.valuesFor (.field name) ((query.unignored ignored).filterMap (given switches))).foldl
        (fun held value => some (Criteria.joined held value)) none := by
  have hcontains : ignored.contains name = false := by simpa using hname
  have hkeeps : ∀ e : Key × Value, e.1.label = .text name → keeps ignored e = true := by
    rintro ⟨key, value⟩ hlabel
    cases key with
    | field other =>
      obtain rfl := Key.Label.text.inj hlabel
      show (!ignored.contains other) = true
      rw [hcontains]
      rfl
    | index | comparison | custom => rfl
  have hvalues : ∀ values : List (Key × Value),
      Criteria.valuesFor (.field name) (values.filter (keeps ignored)) =
        Criteria.valuesFor (.field name) values := by
    intro values
    rw [Criteria.valuesFor, List.filter_filter]
    refine congrArg _ (List.filter_congr fun e _ => ?_)
    rw [Bool.and_eq_left_iff_imp]
    exact fun hlabel => hkeeps e (of_decide_eq_true hlabel)
  rw [criteria_eq_ofValues h, Criteria.get?_ofValues, hvalues]

end Query
end QueryCriteria
