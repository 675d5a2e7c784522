import QueryCriteria.Proofs.FieldNames
import QueryCriteria.Proofs.Rendering

/-!
The shape of the criteria of a query.  They are mappings with distinct keys all the way down,
over lists of plain values and plain values: texts are typed as plain values, comparisons put
operators over them, and merging mappings of this shape gives mappings of this shape.  So the way
from the top to a mapping consists of keys only, and a field in it has a place in the query.
-/
namespace QueryCriteria

namespace Entries

variable {κ ν α : Type} [DecidableEq ν] (label : κ → ν)

/-- Writing invents no values. -/
theorem value_of_mem_merge {base es : List (κ × α)} {e : κ × α} (h : e ∈ merge label base es) :
    (∃ f ∈ base, f.2 = e.2) ∨ ∃ f ∈ es, f.2 = e.2 := by
  induction es generalizing base with
  | nil => exact .inl ⟨e, h, rfl⟩
  | cons g es ih =>
    rcases ih h with ⟨f, hf, he⟩ | ⟨f, hf, he⟩
    · rcases mem_insert label hf with hold | ⟨hvalue, -, -⟩
      · exact .inl ⟨f, hold, he⟩
      · exact .inr ⟨g, List.mem_cons_self, hvalue.symm.trans he⟩
    · exact .inr ⟨f, List.mem_cons_of_mem g hf, he⟩

end Entries

namespace Value

/-- A value with nothing below it. -/
def isPlain : Value → Bool
  | list _ | tuple _ | map _ => false
  | _ => true

theorem child?_of_isPlain {v : Value} (h : v.isPlain = true) (step : Step) :
    v.child? step = none := by
  cases v <;> first | rfl | cases h

/-- Mappings with distinct keys, lists of plain values, and plain values. -/
inductive IsTree : Value → Prop where
  | plain {v : Value} (h : v.isPlain = true) : IsTree v
  | list {items : List Value} (h : ∀ item ∈ items, item.isPlain = true) : IsTree (.list items)
  | map {es : Criteria} (hdistinct : (Entries.labels Key.label es).Nodup)
      (h : ∀ e ∈ es, IsTree e.2) : IsTree (.map es)

theorem IsTree.single {v : Value} (h : v.IsTree) (key : Key) : IsTree (.map [(key, v)]) := by
  refine .map (List.nodup_singleton _) fun e he => ?_
  rw [List.mem_singleton.1 he]
  exact h

theorem IsTree.child {v w : Value} (h : v.IsTree) {step : Step} (hstep : v.child? step = some w) :
    w.IsTree := by
  cases h with
  | plain h =>
    rw [child?_of_isPlain h] at hstep
    cases hstep
  | list h =>
    cases step with
    | entry key => cases hstep
    | item position => exact .plain (h w (List.mem_of_getElem? hstep))
  | map hdistinct h =>
    cases step with
    | entry key =>
      obtain ⟨k, hk, -⟩ := Entries.exists_mem_of_get? Key.label hstep
      exact h _ hk
    | item position => cases hstep

theorem IsTree.at? {v w : Value} (h : v.IsTree) {path : List Step} (hw : v.at? path = some w) :
    w.IsTree := by
  induction path generalizing v with
  | nil =>
    obtain rfl := Option.some.inj hw
    exact h
  | cons step path ih =>
    obtain ⟨u, hstep, hu⟩ := at?_cons_eq_some_iff.1 hw
    exact ih (h.child hstep) hu

theorem IsTree.distinctKeys {v : Value} (h : v.IsTree) : v.DistinctKeys := by
  intro path es hes
  cases h.at? hes with
  | plain h => cases h
  | map hdistinct => exact hdistinct

/-- No mapping stands in a list. -/
theorem IsTree.path_eq_keys {v : Value} (h : v.IsTree) {path : List Step} {es : Criteria}
    (hes : v.at? path = some (.map es)) : ∃ keys : List Key, path = keys.map Step.entry := by
  induction path generalizing v with
  | nil => exact ⟨[], rfl⟩
  | cons step path ih =>
    obtain ⟨u, hstep, hu⟩ := at?_cons_eq_some_iff.1 hes
    cases step with
    | entry key =>
      obtain ⟨keys, rfl⟩ := ih (h.child hstep) hu
      exact ⟨key :: keys, rfl⟩
    | item position =>
      cases h with
      | plain h =>
        rw [child?_of_isPlain h] at hstep
        cases hstep
      | list h =>
        have hplain := h u (List.mem_of_getElem? hstep)
        cases path with
        | nil =>
          obtain rfl := Option.some.inj hu
          cases hplain
        | cons step path =>
          obtain ⟨w, hw, -⟩ := at?_cons_eq_some_iff.1 hu
          rw [child?_of_isPlain hplain] at hw
          cases hw
      | map => cases hstep

end Value

/-! ### Comparisons -/

/-- No text is typed as a list or a mapping. -/
theorem TypedFrom.isPlain {text : List Char} {v : Value} (h : TypedFrom text v) :
    v.isPlain = true := by
  cases h <;> rfl

namespace Comparison

variable {switches : Switches} {tokens : List Token} {v : Value}

theorem isTree_negation (h : v.isPlain = true) : (negation v).IsTree := by
  unfold negation
  split
  · exact (Value.IsTree.plain h).single _
  · exact (Value.IsTree.plain h).single _

section Tokens

variable (hplain : ∀ token ∈ tokens, token.value.isPlain = true)

include hplain

theorem isTree_list : (Value.list (tokens.map (·.value))).IsTree := by
  refine .list fun item hitem => ?_
  obtain ⟨token, htoken, rfl⟩ := List.mem_map.1 hitem
  exact hplain token htoken

theorem isTree_membership : (membership tokens).IsTree := by
  have hlist : ∀ p : Token → Bool, (Value.list ((tokens.filter p).map (·.value))).IsTree :=
    fun p => isTree_list fun token htoken => hplain token (List.mem_of_mem_filter htoken)
  refine .map (demanded_membership tokens).distinct fun e he => ?_
  rcases List.mem_append.1 he with he | he
  · split at he
    · cases he
    · rw [List.mem_singleton.1 he]
      exact hlist _
  · split at he
    · cases he
    · rw [List.mem_singleton.1 he]
      exact hlist _

theorem isTree_equality? {negate : Bool} (h : equality? negate tokens = some v) : v.IsTree := by
  match tokens with
  | [] => cases h
  | [token] =>
    have htoken := hplain token List.mem_cons_self
    rw [equality?] at h
    obtain rfl := Option.some.inj h
    split
    · exact isTree_negation htoken
    · exact .plain htoken
  | first :: second :: tokens =>
    obtain rfl := Option.some.inj h
    split
    · exact (isTree_list hplain).single _
    · exact isTree_membership hplain

theorem isTree_custom (name : List Char) : (custom name tokens).IsTree := by
  refine Value.IsTree.single ?_ _
  match tokens with
  | [] => exact isTree_list hplain
  | [token] => exact .plain (hplain token List.mem_cons_self)
  | first :: second :: tokens => exact isTree_list hplain

end Tokens

theorem isPlain_of_mapM_token {parts : List (List Char)}
    (h : (parts.mapM fun part => switches.token (String.ofList part)) = .ok tokens) :
    ∀ token ∈ tokens, token.value.isPlain = true := by
  intro token htoken
  obtain ⟨part, -, hpart⟩ := Fallible.exists_of_mem_mapM h htoken
  exact (Switches.typedFrom_of_token hpart).isPlain

theorem isTree_of_tokens {operand : List Char} {negate : Bool}
    (h : (TokenList.tokens switches (String.ofList operand)).map (equality? negate) =
      .ok (some v)) : v.IsTree := by
  obtain ⟨tokens, htokens, hv⟩ := Fallible.map_eq_ok_iff.1 h
  exact isTree_equality? (isPlain_of_mapM_token htokens) hv

theorem isTree_of_ofTest {operand : List Char} {relation : Relation}
    (h : ofTest switches operand relation = .ok (some v)) : v.IsTree := by
  cases relation with
  | equal =>
    rw [ofTest] at h
    split at h
    · obtain rfl := Option.some.inj (Except.ok.inj h)
      exact Value.IsTree.single (.plain rfl) _
    · exact isTree_of_tokens h
  | notEqual => exact isTree_of_tokens h
  | order op =>
    obtain ⟨token, htoken, hv⟩ := Fallible.map_eq_ok_iff.1 h
    obtain rfl := Option.some.inj hv
    exact Value.IsTree.single (.plain (Switches.typedFrom_of_token htoken).isPlain) _
  | custom name =>
    obtain ⟨tokens, htokens, hv⟩ := Fallible.map_eq_ok_iff.1 h
    obtain rfl := Option.some.inj hv
    exact isTree_custom (isPlain_of_mapM_token htokens) name

theorem isTree_of_parse {key value : String} {c : Comparison}
    (h : parse switches key value = .ok (some c)) : c.value.IsTree := by
  unfold parse at h
  split at h
  · cases h
  · unfold ofExpression at h
    split at h
    · obtain rfl := Option.some.inj (Except.ok.inj h)
      unfold existence
      split
      · exact Value.IsTree.single (.plain rfl) _
      · exact Value.IsTree.single (.plain rfl) _
    · obtain ⟨found, hfound, hc⟩ := Fallible.map_eq_ok_iff.1 h
      obtain ⟨demanded, rfl, rfl⟩ := Option.map_eq_some_iff.1 hc
      exact isTree_of_ofTest hfound

end Comparison

/-! ### Merging -/

namespace Criteria

variable {criteria : Criteria}

theorem isTree_joined {held : Option Value} {v : Value} (hheld : ∀ w ∈ held, w.IsTree)
    (hv : v.IsTree) : (joined held v).IsTree := by
  unfold joined
  split
  · next old new =>
    cases hheld _ rfl with
    | plain h => cases h
    | map hold holds =>
      cases hv with
      | plain h => cases h
      | map hnew hnews =>
        refine .map (Entries.nodup_labels_merge Key.label hold _) fun e he => ?_
        rcases Entries.value_of_mem_merge Key.label he with ⟨f, hf, hvalue⟩ | ⟨f, hf, hvalue⟩
        · exact hvalue ▸ holds f hf
        · exact hvalue ▸ hnews f hf
  · exact hv

theorem isTree_add (h : (Value.map criteria).IsTree) (key : Key) {v : Value} (hv : v.IsTree) :
    (Value.map (criteria.add key v)).IsTree := by
  cases h with
  | plain h => cases h
  | map hdistinct hall =>
    rw [add_eq_insert]
    refine .map (Entries.nodup_labels_insert Key.label hdistinct _ _) fun e he => ?_
    rcases Entries.mem_insert Key.label he with hold | ⟨hvalue, -⟩
    · exact hall e hold
    · rw [hvalue]
      refine isTree_joined (fun w hw => ?_) hv
      obtain ⟨k, hk, -⟩ := Entries.exists_mem_of_get? Key.label hw
      exact hall _ hk

theorem isTree_addAll {values : List (Key × Value)} (h : (Value.map criteria).IsTree)
    (hvalues : ∀ e ∈ values, e.2.IsTree) : (Value.map (criteria.addAll values)).IsTree := by
  induction values generalizing criteria with
  | nil => exact h
  | cons e values ih =>
    exact ih (isTree_add h e.1 (hvalues e List.mem_cons_self))
      fun f hf => hvalues f (List.mem_cons_of_mem e hf)

end Criteria

/-! ### Queries -/

namespace Query

variable {switches : Switches}

theorem sizeOf_nested_lt {query entries : Query} {entry : QueryKey × QueryValue}
    (hentry : entry ∈ query) (hnested : entry.2 = .nested entries) :
    sizeOf entries < sizeOf query := by
  obtain ⟨key, value⟩ := entry
  obtain rfl : value = .nested entries := hnested
  have hlt := List.sizeOf_lt_of_mem hentry
  rw [Prod.mk.sizeOf_spec, QueryValue.nested.sizeOf_spec] at hlt
  omega

/-- The criteria of a query are a tree, by induction on how deep the query is nested. -/
theorem isTree_criteria {ignored : List String} {query : Query} {criteria : Criteria}
    {dropped : List Notice} (h : query.criteria switches ignored = .ok (criteria, dropped)) :
    (Value.map criteria).IsTree := by
  rw [criteria_eq_ofValues h]
  have hnil : (Value.map []).IsTree := .map List.nodup_nil fun e he => by cases he
  refine Criteria.isTree_addAll hnil fun e he => ?_
  obtain ⟨entry, hentry, hgiven⟩ := List.mem_filterMap.1 (List.mem_filter.1 he).1
  rcases cases_of_given hgiven with ⟨-, text, c, -, hparse, rfl⟩ |
    ⟨entries, inner, notices, hentries, -, hinner, rfl⟩
  · exact Comparison.isTree_of_parse hparse
  · exact isTree_criteria hinner
termination_by sizeOf query
decreasing_by exact sizeOf_nested_lt (List.mem_filter.1 hentry).1 hentries

end Query

/-! ### Fields at a place -/

namespace Value

theorem hasName_of_at? {criteria es : Criteria} {keys : List Key} {name : String}
    (hes : (Value.map criteria).at? (keys.map Step.entry) = some (.map es))
    (hname : ∃ value, (Key.field name, value) ∈ es) :
    criteria.HasName (keys.map Key.label) name := by
  induction keys generalizing criteria with
  | nil =>
    obtain rfl := Value.map.inj (Option.some.inj hes)
    obtain ⟨value, hvalue⟩ := hname
    exact .here hvalue
  | cons key keys ih =>
    obtain ⟨u, hstep, hu⟩ := at?_cons_eq_some_iff.1 hes
    obtain ⟨k, hk, hlabel⟩ := Entries.exists_mem_of_get? Key.label hstep
    obtain ⟨entries, rfl⟩ : ∃ entries, u = .map entries := by
      cases keys with
      | nil => exact ⟨es, Option.some.inj hu⟩
      | cons next keys =>
        obtain ⟨w, hw, -⟩ := at?_cons_eq_some_iff.1 hu
        cases u with
        | map entries => exact ⟨entries, rfl⟩
        | _ => cases hw
    exact .inside hk hlabel (ih hu)

end Value
end QueryCriteria
