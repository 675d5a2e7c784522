import QueryCriteria.Criteria.Render
import QueryCriteria.Proofs.OperatorCollisions

/-!
Rendered criteria, place by place.  A place in a criteria tree is a path of keys and of positions
in lists, and rendering keeps every place with what stands there.  The one exception is a mapping
that has both a client's own operator and a field with the rendered name of that operator: of
these two only one entry is left.
-/
namespace QueryCriteria

namespace Entries

variable {κ ν α : Type} [DecidableEq ν] (label : κ → ν)

theorem lastOf_of_unique {key : κ} {es : List (κ × α)} {a : α} (h : label key ∈ labels label es)
    (hunique : ∀ e ∈ es, label e.1 = label key → e.2 = a) : lastOf label key es = some a := by
  cases hlast : (es.filter fun e => label e.1 = label key).getLast? with
  | none =>
    rw [List.getLast?_eq_none_iff, List.filter_eq_nil_iff] at hlast
    obtain ⟨e, he, hlabel⟩ := List.mem_map.1 h
    exact absurd (decide_eq_true hlabel) (hlast e he)
  | some e =>
    obtain ⟨he, hlabel⟩ := List.mem_filter.1 (List.mem_of_getLast? hlast)
    rw [lastOf, hlast, ← hunique e he (of_decide_eq_true hlabel)]
    rfl

/-- An entry of a mapping with distinct labels is the one that its label is looked up with. -/
theorem get?_of_mem {es : List (κ × α)} (hnd : (labels label es).Nodup) {key : κ} {e : κ × α}
    (he : e ∈ es) (hlabel : label e.1 = label key) : get? label key es = some e.2 := by
  induction es with
  | nil => cases he
  | cons f es ih =>
    obtain ⟨k, a⟩ := f
    rw [labels, List.map_cons, List.nodup_cons] at hnd
    rw [get?]
    rcases List.mem_cons.1 he with rfl | he
    · rw [if_pos hlabel]
    · have hne : label k ≠ label key := fun h =>
        hnd.1 (List.mem_map.2 ⟨e, he, hlabel.trans h.symm⟩)
      rw [if_neg hne, ih hnd.2 he]

/-- A mapping has as many entries as were written into it exactly if their labels differ. -/
theorem length_ofList_iff (es : List (κ × α)) :
    (ofList label es).length = es.length ↔ (labels label es).Nodup := by
  constructor
  · intro h
    have hcard := length_mergeAll label [es]
    rw [List.flatten_singleton] at hcard
    have hall : (labels label es).toFinset.card = (labels label es).length := by
      rw [← hcard, labels, List.length_map]
      exact h
    exact Multiset.toFinset_card_eq_card_iff_nodup.1 hall
  · intro h
    have hbase : (labels label ([] ++ es)).Nodup := h
    rw [ofList, merge_of_nodup label hbase, List.nil_append]

end Entries

/-! ### Rendered names -/

theorem Operator.customName_injective {a b : String} (h : customName a = customName b) : a = b := by
  have hlist : ':' :: a.toList = ':' :: b.toList := by
    rw [← String.toList_ofList (l := ':' :: a.toList), ← String.toList_ofList (l := ':' :: b.toList)]
    exact congrArg String.toList h
  exact String.toList_inj.1 (List.cons.inj hlist).2

namespace Key

/-- What the rendered key is told apart by: a client's own operator becomes a name like others. -/
def Label.rendered : Label → Label
  | .custom name => .text (Operator.customName name)
  | l => l

theorem label_rendered (key : Key) : key.rendered.label = key.label.rendered := by
  cases key <;> rfl

/-- Two labels become one only if one of them is a client's own operator and the other is the name
that this operator gets. -/
theorem Label.rendered_eq_iff {a b : Label} :
    a.rendered = b.rendered ↔ a = b ∨ ∃ name,
      (a = .custom name ∧ b = .text (Operator.customName name)) ∨
        (a = .text (Operator.customName name) ∧ b = .custom name) := by
  constructor
  · intro h
    cases a <;> cases b
    case text.custom s name =>
      exact .inr ⟨name, .inr ⟨h, rfl⟩⟩
    case custom.text name s =>
      exact .inr ⟨name, .inl ⟨rfl, h.symm⟩⟩
    case custom.custom name other =>
      exact .inl (congrArg Label.custom (Operator.customName_injective (Label.text.inj h)))
    all_goals first | exact .inl h | cases h
  · rintro (rfl | ⟨name, ⟨rfl, rfl⟩ | ⟨rfl, rfl⟩⟩) <;> rfl

end Key

theorem renderedItems_eq_map (items : List Value) : renderedItems items = items.map Value.rendered := by
  induction items with
  | nil => rfl
  | cons item items ih => rw [renderedItems, ih, List.map_cons]

theorem renderedEntries_eq_map (es : List (Key × Value)) :
    renderedEntries es = es.map fun e => (e.1.rendered, e.2.rendered) := by
  induction es with
  | nil => rfl
  | cons e es ih => rw [renderedEntries, ih, List.map_cons]

namespace Criteria

variable {es : Criteria}

theorem labels_renderedEntries (es : Criteria) :
    Entries.labels Key.label (renderedEntries es) =
      (Entries.labels Key.label es).map Key.Label.rendered := by
  rw [renderedEntries_eq_map, Entries.labels, Entries.labels, List.map_map, List.map_map]
  exact List.map_congr_left fun e _ => Key.label_rendered e.1

/-- A client's own operator stands beside a field with the rendered name of that operator. -/
def Clash (es : Criteria) (name : String) : Prop :=
  Key.Label.custom name ∈ Entries.labels Key.label es ∧
    Key.Label.text (Operator.customName name) ∈ Entries.labels Key.label es

/-- Rendered names differ as long as nothing clashes. -/
theorem nodup_labels_renderedEntries_iff (hnd : (Entries.labels Key.label es).Nodup) :
    (Entries.labels Key.label (renderedEntries es)).Nodup ↔ ∀ name, ¬es.Clash name := by
  rw [labels_renderedEntries, List.nodup_map_iff_inj_on hnd]
  constructor
  · rintro h name ⟨hcustom, hfield⟩
    cases h _ hcustom _ hfield rfl
  · intro h a ha b hb hab
    rcases Key.Label.rendered_eq_iff.1 hab with heq | ⟨name, ⟨rfl, rfl⟩ | ⟨rfl, rfl⟩⟩
    · exact heq
    · exact absurd ⟨ha, hb⟩ (h name)
    · exact absurd ⟨hb, ha⟩ (h name)

theorem length_rendered_iff (hnd : (Entries.labels Key.label es).Nodup) :
    es.rendered.length = es.length ↔ ∀ name, ¬es.Clash name := by
  have hlength : es.length = (renderedEntries es).length := by
    rw [renderedEntries_eq_map, List.length_map]
  rw [← nodup_labels_renderedEntries_iff hnd, rendered, hlength]
  exact Entries.length_ofList_iff Key.label _

/-- The value of a key is rendered under the rendered key, unless the key clashes with another. -/
theorem get?_rendered (hnd : (Entries.labels Key.label es).Nodup) {key : Key} {w : Value}
    (h : es.get? key = some w) :
    es.rendered.get? key.rendered = some w.rendered ∨
      ∃ name, es.Clash name ∧ key.rendered.label = .text (Operator.customName name) := by
  -- either another entry is rendered to this key, or every entry written to it is the one of the key
  by_cases hclash : ∃ e ∈ es, e.1.rendered.label = key.rendered.label ∧ e.1.label ≠ key.label
  · obtain ⟨e, he, hrendered, hne⟩ := hclash
    have hmem : e.1.label ∈ Entries.labels Key.label es := List.mem_map_of_mem he
    have hkey : key.label ∈ Entries.labels Key.label es := Entries.mem_labels_of_get? Key.label h
    rw [Key.label_rendered, Key.label_rendered] at hrendered
    rcases Key.Label.rendered_eq_iff.1 hrendered with heq | ⟨name, ⟨ha, hb⟩ | ⟨ha, hb⟩⟩
    · exact absurd heq hne
    · refine .inr ⟨name, ⟨ha ▸ hmem, hb ▸ hkey⟩, ?_⟩
      rw [Key.label_rendered, hb]
      rfl
    · refine .inr ⟨name, ⟨hb ▸ hkey, ha ▸ hmem⟩, ?_⟩
      rw [Key.label_rendered, hb]
      rfl
  · left
    rw [get?, rendered, Entries.get?_ofList]
    apply Entries.lastOf_of_unique
    · rw [labels_renderedEntries, Key.label_rendered]
      exact List.mem_map_of_mem (Entries.mem_labels_of_get? Key.label h)
    · intro e he hrendered
      rw [renderedEntries_eq_map] at he
      obtain ⟨f, hf, rfl⟩ := List.mem_map.1 he
      have hsame : f.1.label = key.label := by
        by_contra hne
        exact hclash ⟨f, hf, hrendered, hne⟩
      have hget := Entries.get?_of_mem Key.label hnd hf hsame
      exact congrArg Value.rendered (Option.some.inj (hget.symm.trans h))

end Criteria

/-! ### Places -/

/-- One step down a criteria tree. -/
inductive Step where
  | entry (key : Key)
  | item (position : Nat)

/-- The same step down the rendered tree. -/
def Step.rendered : Step → Step
  | entry key => entry key.rendered
  | item position => item position

namespace Value

def child? : Value → Step → Option Value
  | .map es, .entry key => Criteria.get? es key
  | .list items, .item position => items[position]?
  | _, _ => none

/-- What stands at a place. -/
def at? (v : Value) : List Step → Option Value
  | [] => some v
  | step :: path => (v.child? step).bind fun w => w.at? path

theorem at?_cons_eq_some_iff {v w : Value} {step : Step} {path : List Step} :
    v.at? (step :: path) = some w ↔ ∃ u, v.child? step = some u ∧ u.at? path = some w :=
  Option.bind_eq_some_iff

/-- No mapping in the value has two entries for one key. -/
def DistinctKeys (v : Value) : Prop :=
  ∀ path es, v.at? path = some (.map es) → (Entries.labels Key.label es).Nodup

theorem DistinctKeys.child {v w : Value} (h : v.DistinctKeys) {step : Step}
    (hstep : v.child? step = some w) : w.DistinctKeys := by
  intro path es hes
  exact h (step :: path) es (at?_cons_eq_some_iff.2 ⟨w, hstep, hes⟩)

/-- The key of one of the steps clashes with another key of its mapping. -/
def ClashesOn (v : Value) (path : List Step) : Prop :=
  ∃ before key after es name, path = before ++ .entry key :: after ∧
    v.at? before = some (.map es) ∧ Criteria.Clash es name ∧
      key.rendered.label = .text (Operator.customName name)

theorem ClashesOn.cons {v w : Value} {step : Step} {path : List Step} (h : w.ClashesOn path)
    (hstep : v.child? step = some w) : v.ClashesOn (step :: path) := by
  obtain ⟨before, key, after, es, name, rfl, hes, hclash⟩ := h
  exact ⟨step :: before, key, after, es, name, rfl, at?_cons_eq_some_iff.2 ⟨w, hstep, hes⟩, hclash⟩

/-- One step down: rendering keeps what stands there, or the key clashes with another. -/
theorem child?_rendered {v w : Value} (hv : v.DistinctKeys) {step : Step}
    (h : v.child? step = some w) :
    v.rendered.child? step.rendered = some w.rendered ∨ v.ClashesOn [step] := by
  cases v with
  | map es =>
    cases step with
    | entry key =>
      rcases Criteria.get?_rendered (hv [] es rfl) h with hget | ⟨name, hclash, hname⟩
      · exact .inl hget
      · exact .inr ⟨[], key, [], es, name, rfl, rfl, hclash, hname⟩
    | item position => cases h
  | list items =>
    cases step with
    | entry key => cases h
    | item position =>
      have h : items[position]? = some w := h
      left
      show (renderedItems items)[position]? = some w.rendered
      rw [renderedItems_eq_map, List.getElem?_map, h]
      rfl
  | null | bool | int | float | str | date | regex | tuple => cases h

/-- Rendering keeps what stands at a place, or a key on the way to it clashes with another. -/
theorem at?_rendered {v w : Value} (hv : v.DistinctKeys) {path : List Step}
    (h : v.at? path = some w) :
    v.rendered.at? (path.map Step.rendered) = some w.rendered ∨ v.ClashesOn path := by
  induction path generalizing v with
  | nil =>
    obtain rfl := Option.some.inj h
    exact .inl rfl
  | cons step path ih =>
    obtain ⟨u, hstep, hu⟩ := at?_cons_eq_some_iff.1 h
    rcases child?_rendered hv hstep with hchild | ⟨before, key, after, es, name, hsplit, hclash⟩
    · rcases ih (hv.child hstep) hu with hrest | hrest
      · exact .inl (at?_cons_eq_some_iff.2 ⟨u.rendered, hchild, hrest⟩)
      · exact .inr (hrest.cons hstep)
    · refine .inr ⟨before, key, after ++ path, es, name, ?_, hclash⟩
      rw [← List.singleton_append, hsplit, List.append_assoc, List.cons_append]

/-! ### Entries at every level -/

/-- Wherever a mapping stands in the value, the rendered value has one of the same size. -/
def KeepsEntries (v : Value) : Prop :=
  ∀ path es, v.at? path = some (.map es) →
    ∃ es', v.rendered.at? (path.map Step.rendered) = some (.map es') ∧ es'.length = es.length

/-- Rendering loses an entry exactly where a client's own operator and a field get one name. -/
theorem keepsEntries_iff {v : Value} (hv : v.DistinctKeys) :
    v.KeepsEntries ↔ ∀ path es, v.at? path = some (.map es) → ∀ name, ¬Criteria.Clash es name := by
  constructor
  · intro hkeeps path
    -- a clash on the way would be one at a shorter path
    induction hlength : path.length using Nat.strong_induction_on generalizing path with
    | _ n ih =>
      intro es hes
      obtain ⟨es', hes', hsize⟩ := hkeeps path es hes
      rcases at?_rendered hv hes with hrendered | hclash
      · obtain rfl := Value.map.inj (Option.some.inj (hes'.symm.trans hrendered))
        exact (Criteria.length_rendered_iff (hv path es hes)).1 hsize
      · obtain ⟨before, key, after, outer, name, rfl, hbefore, hclash, -⟩ := hclash
        have hshort : before.length < n := by
          rw [← hlength, List.length_append, List.length_cons]
          omega
        exact absurd hclash (ih before.length hshort before rfl outer hbefore name)
  · intro hnone path es hes
    rcases at?_rendered hv hes with hrendered | hclash
    · exact ⟨_, hrendered, (Criteria.length_rendered_iff (hv path es hes)).2 (hnone path es hes)⟩
    · obtain ⟨before, key, after, outer, name, -, hbefore, hclash, -⟩ := hclash
      exact absurd hclash (hnone before outer hbefore name)

end Value
end QueryCriteria
