import QueryCriteria.Proofs.Comparison
import QueryCriteria.Proofs.ReservedNames
import QueryCriteria.Proofs.SettledValues
import QueryCriteria.Proofs.TypedValue
import Mathlib.Data.List.ReduceOption

/-!
The merge in closed form.  Which field a parameter resolves to is known only when it has been
read, but the parameters of one field are the only ones that its value depends on, and the
value is what theirs come to.  No mapping that is written has two entries for one key, so that
the first mapping for a field is there as it was given.
-/
namespace QueryCriteria

/-! ### What comparisons demand -/

/-- Whether a key is an operator, and no field. -/
def Key.isOperator : Key → Bool
  | comparison _ | custom _ => true
  | field _ | index _ => false

/-- What a comparison can demand: a value that is no mapping, an operator with such an operand,
or both operators for membership. -/
inductive Demanded : Value → Prop where
  | plain {v : Value} (h : v.entries = []) : Demanded v
  | operator {key : Key} {v : Value} (hkey : key.isOperator = true) (h : v.entries = []) :
      Demanded (.map [(key, v)])
  | members (included excluded : List Value) :
      Demanded (.map [(.comparison .among, .list included), (.comparison .notAmong, .list excluded)])

theorem Demanded.distinct {v : Value} (h : Demanded v) : v.Distinct := by
  cases h with
  | plain h => exact Value.distinct_of_entries_nil h
  | operator hkey h => exact List.nodup_singleton _
  | members included excluded =>
    show [Key.Label.text Operator.among.name, .text Operator.notAmong.name].Nodup
    decide

/-- A comparison demands no fields, neither of itself nor of an operand. -/
theorem Demanded.isOperator_of_mem {v : Value} (h : Demanded v) {e : Key × Value}
    (he : e ∈ v.entries) : e.1.isOperator = true ∧ e.2.entries = [] := by
  cases h with
  | plain h =>
    rw [h] at he
    cases he
  | operator hkey h =>
    rw [List.mem_singleton.1 he]
    exact ⟨hkey, h⟩
  | members included excluded =>
    rcases List.mem_cons.1 he with rfl | he
    · exact ⟨rfl, rfl⟩
    · rw [List.mem_singleton.1 he]
      exact ⟨rfl, rfl⟩

/-- No text is typed as a mapping. -/
theorem TypedFrom.entries_eq_nil {text : List Char} {v : Value} (h : TypedFrom text v) :
    v.entries = [] := by
  cases h <;> rfl

namespace Comparison

variable {switches : Switches} {operand : List Char} {relation : Relation} {v : Value}

theorem demanded_negation (h : v.entries = []) : Demanded (negation v) := by
  unfold negation
  split
  · exact .operator rfl h
  · exact .operator rfl h

theorem demanded_membership (tokens : List Token) : Demanded (membership tokens) := by
  unfold membership
  dsimp only
  split <;> split
  · exact .plain rfl
  · exact .operator rfl rfl
  · exact .operator rfl rfl
  · exact .members _ _

theorem demanded_equality? {negate : Bool} {tokens : List Token}
    (hentries : ∀ token ∈ tokens, token.value.entries = [])
    (h : equality? negate tokens = some v) : Demanded v := by
  match tokens with
  | [] => cases h
  | [token] =>
    have htoken := hentries token List.mem_cons_self
    rw [equality?] at h
    obtain rfl := Option.some.inj h
    split
    · exact demanded_negation htoken
    · exact .plain htoken
  | first :: second :: tokens =>
    obtain rfl := Option.some.inj h
    split
    · exact .operator rfl rfl
    · exact demanded_membership _

theorem demanded_custom (name : List Char) {tokens : List Token}
    (hentries : ∀ token ∈ tokens, token.value.entries = []) : Demanded (custom name tokens) := by
  refine .operator rfl ?_
  match tokens with
  | [] => rfl
  | [token] => exact hentries token List.mem_cons_self
  | first :: second :: tokens => rfl

theorem entries_of_mapM_token {parts : List (List Char)} {tokens : List Token}
    (h : (parts.mapM fun part => switches.token (String.ofList part)) = .ok tokens) :
    ∀ token ∈ tokens, token.value.entries = [] := by
  intro token htoken
  obtain ⟨part, -, hpart⟩ := Fallible.exists_of_mem_mapM h htoken
  exact (Switches.typedFrom_of_token hpart).entries_eq_nil

theorem demanded_of_tokens {negate : Bool}
    (h : (TokenList.tokens switches (String.ofList operand)).map (equality? negate) =
      .ok (some v)) : Demanded v := by
  obtain ⟨tokens, htokens, hv⟩ := Fallible.map_eq_ok_iff.1 h
  exact demanded_equality? (entries_of_mapM_token htokens) hv

theorem demanded_of_ofTest (h : ofTest switches operand relation = .ok (some v)) : Demanded v := by
  cases relation with
  | equal =>
    rw [ofTest] at h
    split at h
    · obtain rfl := Option.some.inj (Except.ok.inj h)
      exact .operator rfl rfl
    · exact demanded_of_tokens h
  | notEqual => exact demanded_of_tokens h
  | order op =>
    obtain ⟨token, htoken, hv⟩ := Fallible.map_eq_ok_iff.1 h
    obtain rfl := Option.some.inj hv
    exact .operator rfl (Switches.typedFrom_of_token htoken).entries_eq_nil
  | custom name =>
    obtain ⟨tokens, htokens, hv⟩ := Fallible.map_eq_ok_iff.1 h
    obtain rfl := Option.some.inj hv
    exact demanded_custom name (entries_of_mapM_token htokens)

theorem demanded_of_parse {key value : String} {c : Comparison}
    (h : parse switches key value = .ok (some c)) : Demanded c.value := by
  unfold parse at h
  split at h
  · cases h
  · unfold ofExpression at h
    split at h
    · obtain rfl := Option.some.inj (Except.ok.inj h)
      unfold existence
      split
      · exact .operator rfl rfl
      · exact .operator rfl rfl
    · obtain ⟨found, hfound, hc⟩ := Fallible.map_eq_ok_iff.1 h
      obtain ⟨demanded, rfl, rfl⟩ := Option.map_eq_some_iff.1 hc
      exact demanded_of_ofTest hfound

end Comparison

/-! ### Mappings have distinct keys -/

theorem Criteria.nodup_labels_addAll {criteria : Criteria} (values : List (Key × Value))
    (h : (Entries.labels Key.label criteria).Nodup) :
    (Entries.labels Key.label (criteria.addAll values)).Nodup := by
  induction values generalizing criteria with
  | nil => exact h
  | cons e values ih =>
    apply ih
    show (Entries.labels Key.label (criteria.add e.1 e.2)).Nodup
    rw [add_eq_insert]
    exact Entries.nodup_labels_insert Key.label h _ _

namespace Query

variable {switches : Switches} {ignored : List String}

theorem nodup_labels_criteria {query : Query} {criteria : Criteria} {dropped : List Notice}
    (h : query.criteria switches ignored = .ok (criteria, dropped)) :
    (Entries.labels Key.label criteria).Nodup := by
  rw [criteria_eq_ofValues h]
  exact Criteria.nodup_labels_addAll _ List.nodup_nil

theorem distinct_of_given {entry : QueryKey × QueryValue} {e : Key × Value}
    (h : given switches entry = some e) : e.2.Distinct := by
  rcases cases_of_given h with ⟨-, text, c, -, hparse, rfl⟩ |
    ⟨entries, inner, dropped, -, -, hinner, rfl⟩
  · exact (Comparison.demanded_of_parse hparse).distinct
  · exact nodup_labels_criteria hinner

/-- The value of a field is what the values that are given for it come to. -/
theorem get?_eq_settled_given {query : Query} {criteria : Criteria} {dropped : List Notice}
    (h : query.criteria switches ignored = .ok (criteria, dropped)) {name : String}
    (hname : name ∉ ignored) :
    criteria.get? (.field name) = Criteria.settled (Criteria.valuesFor (.field name)
      ((query.unignored ignored).filterMap (given switches))) := by
  rw [get?_criteria h hname]
  apply Criteria.foldl_joined
  intro v hv
  obtain ⟨e, he, rfl⟩ := List.mem_map.1 hv
  obtain ⟨entry, -, hgiven⟩ := List.mem_filterMap.1 (List.mem_filter.1 he).1
  exact distinct_of_given hgiven

/-! ### What parameters resolve to -/

/-- The comparison that a parameter writes. -/
def compared (switches : Switches) (key : QueryKey) (value : QueryValue) :
    Except Fault (Option (Key × Value)) :=
  (texts key value).bind fun read =>
    (Comparison.parse switches read.1 read.2).map fun found =>
      found.map fun c => (.field c.field, c.value)

/-- The field that a parameter resolves to and its value.  A nested mapping, unless it is a
list in disguise, resolves to the criteria of its own parameters, of which none is ignored. -/
def resolved (switches : Switches) : QueryKey × QueryValue → Except Fault (Option (Key × Value))
  | (key, .nested entries) =>
    (readShape entries).bind fun isArray =>
      if isArray then compared switches key (.nested entries)
      else (criteria switches [] entries).map fun inner => some (fieldOf key, .map inner.1)
  | (key, value) => compared switches key value

theorem found_scalar (key : QueryKey) (value : QueryValue) :
    (scalar switches key value).map (·.found) = compared switches key value := by
  rw [scalar, compared]
  cases texts key value with
  | error fault => rfl
  | ok read =>
    simp only [Except.bind]
    cases Comparison.parse switches read.1 read.2 with
    | error fault => rfl
    | ok found => cases found <;> rfl

theorem found_contribution (entry : QueryKey × QueryValue) :
    (contribution switches entry.1 entry.2).map (·.found) = resolved switches entry := by
  obtain ⟨key, value⟩ := entry
  cases value with
  | nested entries =>
    show (contribution switches key (.nested entries)).map (·.found) = _
    rw [resolved, contribution_nested]
    cases readShape entries with
    | error fault => rfl
    | ok isArray =>
      cases isArray with
      | true => exact found_scalar key _
      | false =>
        show ((criteria switches [] entries).map _).map _ = (criteria switches [] entries).map _
        cases criteria switches [] entries <;> rfl
  | null | bool | int | float | text | list | tuple => exact found_scalar key _

theorem found_contributions (query : Query) :
    (contributions switches query).map (List.map (·.found)) = query.mapM (resolved switches) := by
  induction query with
  | nil => rfl
  | cons entry query ih =>
    rw [List.mapM_cons, ← ih, ← found_contribution entry, contributions]
    cases contribution switches entry.1 entry.2 with
    | error fault => rfl
    | ok first => cases contributions switches query <;> rfl

/-- Whether a parameter resolves to a field. -/
def resolvesTo (switches : Switches) (name : String) (entry : QueryKey × QueryValue) : Bool :=
  match resolved switches entry with
  | .ok (some (key, _)) => key.label = .text name
  | _ => false

theorem resolvesTo_of_resolved {entry : QueryKey × QueryValue} {e : Key × Value}
    (h : resolved switches entry = .ok (some e)) (name : String) :
    resolvesTo switches name entry = decide (e.1.label = (Key.field name).label) := by
  rw [resolvesTo, h]
  rfl

theorem given_of_resolved {entry : QueryKey × QueryValue} {found : Option (Key × Value)}
    (h : resolved switches entry = .ok found) : given switches entry = found := by
  rw [← found_contribution] at h
  obtain ⟨c, hc, rfl⟩ := Fallible.map_eq_ok_iff.1 h
  rw [given, hc]

theorem filterMap_given {query : Query} {found : List (Option (Key × Value))}
    (h : query.mapM (resolved switches) = .ok found) :
    query.filterMap (given switches) = found.reduceOption := by
  rw [← found_contributions] at h
  obtain ⟨all, hall, rfl⟩ := Fallible.map_eq_ok_iff.1 h
  rw [← filterMap_found hall, List.reduceOption, List.filterMap_map]
  rfl

/-- A query is read exactly if all its parameters can be resolved, and stops at the same
fault if they cannot. -/
theorem criteria_of_resolved (switches : Switches) (ignored : List String) (query : Query) :
    Fallible.outcome (query.criteria switches ignored) =
      Fallible.outcome ((query.unignored ignored).mapM (resolved switches)) := by
  rw [← found_contributions, Fallible.outcome_map, criteria, filtered, Fallible.outcome_map,
    Fallible.outcome_map]
  rfl

/-- Only the parameters that resolve to a field give values for it. -/
theorem valuesFor_filter (name : String) {query : Query}
    (h : ∀ entry ∈ query, ∃ found, resolved switches entry = .ok found) :
    Criteria.valuesFor (.field name) (query.filterMap (given switches)) =
      Criteria.valuesFor (.field name)
        ((query.filter (resolvesTo switches name)).filterMap (given switches)) := by
  induction query with
  | nil => rfl
  | cons entry query ih =>
    obtain ⟨found, hfound⟩ := h entry List.mem_cons_self
    have hrest := ih fun other ho => h other (List.mem_cons_of_mem _ ho)
    have hgiven := given_of_resolved hfound
    rw [List.filter_cons]
    cases found with
    | none =>
      have hother : resolvesTo switches name entry = false := by
        rw [resolvesTo, hfound]
      rw [hother, List.filterMap_cons_none hgiven, hrest]
      rfl
    | some e =>
      rw [List.filterMap_cons_some hgiven, Criteria.valuesFor_cons, hrest,
        resolvesTo_of_resolved hfound]
      by_cases hlabel : e.1.label = (Key.field name).label
      · rw [if_pos hlabel, if_pos (decide_eq_true hlabel), List.filterMap_cons_some hgiven,
          Criteria.valuesFor_cons, if_pos hlabel]
      · rw [if_neg hlabel, if_neg (by simpa using hlabel)]

section Fields

variable {query : Query} {criteria : Criteria} {dropped : List Notice}
  {found : List (Option (Key × Value))} {name : String}

theorem get?_eq_settled (h : query.criteria switches ignored = .ok (criteria, dropped))
    (hfound : (query.unignored ignored).mapM (resolved switches) = .ok found)
    (hname : name ∉ ignored) :
    criteria.get? (.field name) =
      Criteria.settled (Criteria.valuesFor (.field name) found.reduceOption) := by
  rw [get?_eq_settled_given h hname, filterMap_given hfound]

theorem get?_of_ignored (h : query.criteria switches ignored = .ok (criteria, dropped))
    (hname : name ∈ ignored) : criteria.get? (.field name) = none :=
  Entries.get?_eq_none Key.label (ignored_not_mem_labels h hname)

/-- A field is there exactly if some value is given for it. -/
theorem mem_labels_iff (h : query.criteria switches ignored = .ok (criteria, dropped))
    (hfound : (query.unignored ignored).mapM (resolved switches) = .ok found)
    (hname : name ∉ ignored) :
    .text name ∈ Entries.labels Key.label criteria ↔
      Criteria.valuesFor (.field name) found.reduceOption ≠ [] := by
  have hsettled := get?_eq_settled h hfound hname
  constructor
  · intro hmem hnone
    have hget : ∃ v, criteria.get? (.field name) = some v :=
      Entries.exists_get?_of_mem Key.label hmem
    obtain ⟨v, hv⟩ := hget
    rw [hv, hnone] at hsettled
    cases hsettled
  · intro hvalues
    by_contra hmem
    have hget : criteria.get? (.field name) = none := Entries.get?_eq_none Key.label hmem
    exact hvalues (Criteria.settled_eq_none_iff.1 (hsettled.symm.trans hget))

end Fields

/-! ### Parameters in another order -/

theorem unignored_perm {query other : Query} (h : other.Perm query) :
    (other.unignored ignored).Perm (query.unignored ignored) :=
  h.filter _

/-- A query that can be read can be read in any order. -/
theorem resolves_of_perm {query other : Query} (h : other.Perm query)
    (hquery : ∃ found, query.mapM (resolved switches) = .ok found) :
    ∃ found, other.mapM (resolved switches) = .ok found := by
  rw [Fallible.exists_mapM_ok_iff] at hquery ⊢
  intro entry hentry
  exact hquery entry (h.mem_iff.1 hentry)

/-- Values for a field depend on the order of its own parameters alone. -/
theorem valuesFor_of_filter {name : String} {query other : Query}
    {found found' : List (Option (Key × Value))}
    (hfound : query.mapM (resolved switches) = .ok found)
    (hfound' : other.mapM (resolved switches) = .ok found')
    (hsame : other.filter (resolvesTo switches name) = query.filter (resolvesTo switches name)) :
    Criteria.valuesFor (.field name) found'.reduceOption =
      Criteria.valuesFor (.field name) found.reduceOption := by
  rw [← filterMap_given hfound, ← filterMap_given hfound',
    valuesFor_filter name (Fallible.exists_mapM_ok_iff.1 ⟨found, hfound⟩),
    valuesFor_filter name (Fallible.exists_mapM_ok_iff.1 ⟨found', hfound'⟩), hsame]

/-- Neighbours that resolve to different fields may change places. -/
theorem filter_resolvesTo_swap {x y : QueryKey × QueryValue} {e f : Key × Value}
    (hx : resolved switches x = .ok (some e)) (hy : resolved switches y = .ok (some f))
    (hne : e.1.label ≠ f.1.label) (name : String) (rest : Query) :
    List.filter (resolvesTo switches name) (y :: x :: rest) =
      List.filter (resolvesTo switches name) (x :: y :: rest) := by
  by_cases hname : e.1.label = (Key.field name).label
  · have hother : f.1.label ≠ (Key.field name).label := fun heq => hne (hname.trans heq.symm)
    simp [resolvesTo_of_resolved hx, resolvesTo_of_resolved hy, hname, hother]
  · simp [List.filter_cons, resolvesTo_of_resolved hx, hname]

theorem exists_criteria {query : Query}
    (h : ∃ found, (query.unignored ignored).mapM (resolved switches) = .ok found) :
    ∃ criteria dropped, query.criteria switches ignored = .ok (criteria, dropped) := by
  have houtcome := criteria_of_resolved switches ignored query
  rw [Fallible.outcome_eq_ok_iff.2 h, Fallible.outcome_eq_ok_iff] at houtcome
  obtain ⟨⟨criteria, dropped⟩, hcriteria⟩ := houtcome
  exact ⟨criteria, dropped, hcriteria⟩

theorem get?_perm {query other : Query} {criteria : Criteria} {dropped : List Notice}
    (h : query.criteria switches ignored = .ok (criteria, dropped))
    (hresolved : ∃ found, (query.unignored ignored).mapM (resolved switches) = .ok found)
    (hperm : other.Perm query)
    (hsame : ∀ name ∉ ignored, (other.unignored ignored).filter (resolvesTo switches name) =
      (query.unignored ignored).filter (resolvesTo switches name)) :
    ∃ criteria' dropped', other.criteria switches ignored = .ok (criteria', dropped') ∧
      ∀ name, criteria'.get? (.field name) = criteria.get? (.field name) := by
  obtain ⟨found', hfound'⟩ := resolves_of_perm (unignored_perm hperm) hresolved
  obtain ⟨found, hfound⟩ := hresolved
  obtain ⟨criteria', dropped', h'⟩ := exists_criteria ⟨found', hfound'⟩
  refine ⟨criteria', dropped', h', fun name => ?_⟩
  by_cases hname : name ∈ ignored
  · rw [get?_of_ignored h hname, get?_of_ignored h' hname]
  · rw [get?_eq_settled h hfound hname, get?_eq_settled h' hfound' hname,
      valuesFor_of_filter hfound hfound' (hsame name hname)]

/-- The merge in closed form.  A query whose parameters cannot all be resolved has no criteria,
for the same fault.  Otherwise a field that is not ignored is in the criteria exactly if a
parameter resolves to it, with what the values of these parameters come to; and parameters
of different fields may change places.  Mappings are written into each other with the
last value for every key at the place where the key came first. -/
theorem criteria_closed_form (switches : Switches) (ignored : List String) (query : Query) :
    (∀ fault, (query.unignored ignored).mapM (resolved switches) = .error fault →
      query.criteria switches ignored = .error fault) ∧
    (∀ found, (query.unignored ignored).mapM (resolved switches) = .ok found →
      ∃ criteria dropped, query.criteria switches ignored = .ok (criteria, dropped) ∧
        (∀ name ∉ ignored,
          (.text name ∈ Entries.labels Key.label criteria ↔
            Criteria.valuesFor (.field name) found.reduceOption ≠ []) ∧
          criteria.get? (.field name) =
            Criteria.settled (Criteria.valuesFor (.field name) found.reduceOption)) ∧
        ∀ other : Query, other.Perm query →
          (∀ name ∉ ignored, (other.unignored ignored).filter (resolvesTo switches name) =
            (query.unignored ignored).filter (resolvesTo switches name)) →
          ∃ criteria' dropped', other.criteria switches ignored = .ok (criteria', dropped') ∧
            ∀ name, criteria'.get? (.field name) = criteria.get? (.field name)) ∧
    ∀ maps : List Criteria,
      Entries.labels Key.label (Entries.mergeAll Key.label maps) =
        (Entries.labels Key.label maps.flatten).eraseDups ∧
      ∀ key, Entries.get? Key.label key (Entries.mergeAll Key.label maps) =
        Entries.lastOf Key.label key maps.flatten := by
  refine ⟨?_, ?_, ?_⟩
  · intro fault hfault
    have houtcome := criteria_of_resolved switches ignored query
    rw [hfault] at houtcome
    exact Fallible.map_eq_error_iff.1 houtcome
  · intro found hfound
    obtain ⟨criteria, dropped, h⟩ := exists_criteria ⟨found, hfound⟩
    refine ⟨criteria, dropped, h, ?_, ?_⟩
    · intro name hname
      exact ⟨mem_labels_iff h hfound hname, get?_eq_settled h hfound hname⟩
    · intro other hperm hsame
      exact get?_perm h ⟨found, hfound⟩ hperm hsame
  · intro maps
    exact ⟨Entries.labels_mergeAll Key.label maps, fun key => Entries.get?_mergeAll Key.label key maps⟩

/-- Four values for one field, the second of which is no mapping, and other parameters
among them. -/
def scatteredBounds : Query :=
  [(.name "a>", .text "0"), (.name "b", .nested [(.name "limit", .text "")]), (.name "a", .text "1"),
    (.name "a<", .text "5"), (.name "limit<", .text "7"), (.name "a>", .text "2")]

theorem criteria_closed_form_scattered :
    ∃ criteria dropped, scatteredBounds.criteria {} ["limit"] = .ok (criteria, dropped) ∧
      criteria.get? (.field "a") =
        some (.map [(.comparison .le, .int 5), (.comparison .ge, .int 2)]) ∧
      .text "c" ∉ Entries.labels Key.label criteria ∧
      ∃ criteria' dropped',
        Query.criteria {} ["limit"] (scatteredBounds[1] :: scatteredBounds[0] ::
          scatteredBounds.drop 2) = .ok (criteria', dropped') ∧
        criteria'.get? (.field "a") = criteria.get? (.field "a") := by
  have hfirst : resolved {} scatteredBounds[0] =
      .ok (some (.field "a", .map [(.comparison .ge, .int 0)])) := rfl
  have hsecond : resolved {} scatteredBounds[1] =
      .ok (some (.field "b", .map [(.field "limit", .map [(.comparison .is, .bool true)])])) := rfl
  have htokens : TokenList.tokens {} (String.ofList ['1']) =
      .ok [{ negated := false, value := .int 1 }] := by
    have hliteral : TokenList.IsLiteral ['1'] :=
      TokenList.isLiteral_plain (List.cons_ne_nil _ _) (by simp) (by simp)
    rw [TokenList.tokens, String.toList_ofList, TokenList.split_of_standalone hliteral.standalone]
    rfl
  have hthird : resolved {} scatteredBounds[2] = .ok (some (.field "a", .int 1)) := by
    have hparse : Comparison.parse {} (String.ofList ['a']) (String.ofList ['1']) =
        .ok (some { field := "a", value := .int 1 }) :=
      Comparison.parse_of_test rfl (Comparison.ofTest_equal (by decide) htokens)
    show (Comparison.parse {} (String.ofList ['a']) (String.ofList ['1'])).map _ = _
    rw [hparse]
    rfl
  have hfound : (scatteredBounds.unignored ["limit"]).mapM (resolved {}) =
      .ok [some (.field "a", .map [(.comparison .ge, .int 0)]),
        some (.field "b", .map [(.field "limit", .map [(.comparison .is, .bool true)])]),
        some (.field "a", .int 1),
        some (.field "a", .map [(.comparison .le, .int 5)]),
        some (.field "limit", .map [(.comparison .le, .int 7)]),
        some (.field "a", .map [(.comparison .ge, .int 2)])] := by
    show (scatteredBounds[0] :: scatteredBounds[1] :: scatteredBounds[2] ::
      scatteredBounds.drop 3).mapM _ = _
    rw [Fallible.mapM_cons_ok hfirst, Fallible.mapM_cons_ok hsecond, Fallible.mapM_cons_ok hthird]
    rfl
  obtain ⟨criteria, dropped, h, hfields, hmoved⟩ :=
    (criteria_closed_form {} ["limit"] scatteredBounds).2.1 _ hfound
  obtain ⟨criteria', dropped', h', hsame⟩ := hmoved _ (.swap _ _ _) fun name _ =>
    filter_resolvesTo_swap hfirst hsecond (by decide) name (scatteredBounds.drop 2)
  refine ⟨criteria, dropped, h, ?_, ?_, criteria', dropped', h', hsame "a"⟩
  · exact (hfields "a" (by decide)).2
  · rw [(hfields "c" (by decide)).1, not_not]
    rfl

end Query
end QueryCriteria
