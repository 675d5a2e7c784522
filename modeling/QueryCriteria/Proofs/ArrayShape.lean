import QueryCriteria.Proofs.Configuration
import QueryCriteria.Proofs.Display
import QueryCriteria.Proofs.Options
import QueryCriteria.Selection

/-!
Lists and the mappings that stand for them.  A mapping that numbers the items of a list gives
the same criteria as the list, at any depth.  The options tell them apart, since they read a
mapping as the text that displays it: its braces become part of names, and no number is found
in it.
-/
namespace QueryCriteria

namespace Query

/-- The items of a list under the decimal texts of their positions, counted from `n`. -/
def numberedFrom : Nat → List String → Query
  | _, [] => []
  | n, item :: items =>
    (.name (String.ofList (naturalText n)), .text item) :: numberedFrom (n + 1) items

def numbered (items : List String) : Query := numberedFrom 0 items

end Query

/-- One list of texts somewhere in a value has become the mapping that numbers its items. -/
inductive Reshaped : QueryValue → QueryValue → Prop where
  | array {items : List String} : items ≠ [] →
      Reshaped (.list (items.map .text)) (.nested (Query.numbered items))
  | within {before after : Query} {key : QueryKey} {v w : QueryValue} : Reshaped v w →
      Reshaped (.nested (before ++ (key, v) :: after)) (.nested (before ++ (key, w) :: after))

/-! ### Criteria -/

namespace Query

theorem positionsFrom_numberedFrom (n : Nat) (items : List String) :
    positionsFrom n (numberedFrom n items) = true := by
  induction items generalizing n with
  | nil => rfl
  | cons item items ih =>
    have hposition : isPosition n (.name (String.ofList (naturalText n))) = true :=
      decide_eq_true String.toList_ofList
    rw [numberedFrom, positionsFrom, hposition, ih]
    rfl

theorem isArrayShaped_numbered {items : List String} (h : items ≠ []) :
    (numbered items).isArrayShaped = true := by
  cases items with
  | nil => exact absurd rfl h
  | cons item items => exact positionsFrom_numberedFrom 0 (item :: items)

/-- The shape of a mapping depends on nothing but its keys. -/
theorem positionsFrom_congr (n : Nat) (before after : Query) (key : QueryKey) (v w : QueryValue) :
    positionsFrom n (before ++ (key, v) :: after) =
      positionsFrom n (before ++ (key, w) :: after) := by
  induction before generalizing n with
  | nil => rfl
  | cons entry before ih => rw [List.cons_append, positionsFrom, ih]; rfl

theorem isArrayShaped_congr (before after : Query) (key : QueryKey) (v w : QueryValue) :
    isArrayShaped (before ++ (key, v) :: after) = isArrayShaped (before ++ (key, w) :: after) := by
  rw [isArrayShaped, positionsFrom_congr 0 before after key v w]
  cases before <;> rfl

theorem positionIntegers_congr (n : Nat) (before after : Query) (key : QueryKey)
    (v w : QueryValue) :
    positionIntegers n (before ++ (key, v) :: after) =
      positionIntegers n (before ++ (key, w) :: after) := by
  induction before generalizing n with
  | nil => rfl
  | cons entry before ih =>
    rw [List.cons_append, positionIntegers, ih]
    rfl

theorem readShape_congr (before after : Query) (key : QueryKey) (v w : QueryValue) :
    readShape (before ++ (key, v) :: after) = readShape (before ++ (key, w) :: after) := by
  rw [readShape, positionIntegers_congr 0 before after key v w,
    isArrayShaped_congr before after key v w]
  rfl

theorem positionIntegers_numberedFrom (n m : Nat) (items : List String) :
    positionIntegers n (numberedFrom m items) = [] := by
  induction items generalizing n m with
  | nil => rfl
  | cons item items ih =>
    rw [numberedFrom, positionIntegers, ih, ite_self]
    rfl

theorem readShape_numbered {items : List String} (h : items ≠ []) :
    readShape (numbered items) = .ok true := by
  refine readShape_eq_ok_iff.2 ⟨?_, isArrayShaped_numbered h⟩
  rw [numbered, positionIntegers_numberedFrom]
  exact nofun

theorem entryIntegers_numberedFrom (withKeys : Bool) (n : Nat) (items : List String) :
    QueryValue.entryIntegers withKeys (numberedFrom n items) = [] := by
  induction items generalizing n with
  | nil => rfl
  | cons item items ih =>
    rw [numberedFrom, QueryValue.entryIntegers, ih]
    cases withKeys <;> rfl

theorem flatten_numberedFrom (n : Nat) (items : List String) :
    (numberedFrom n items).map (fun entry => entry.2.flatten) = items.map String.toList := by
  induction items generalizing n with
  | nil => rfl
  | cons item items ih =>
    rw [numberedFrom, List.map_cons, ih]
    rfl

end Query

namespace Reshaped

variable {v w : QueryValue}

theorem flatten_eq (h : Reshaped v w) : v.flatten = w.flatten := by
  induction h with
  | @array items _ =>
    rw [QueryValue.flatten, QueryValue.flatten, QueryValue.flattenItems_eq_map,
      QueryValue.flattenEntries_eq_map, List.map_map, Query.numbered, Query.flatten_numberedFrom]
    rfl
  | within _ ih =>
    simp only [QueryValue.flatten, QueryValue.flattenEntries_eq_map, List.map_append, List.map_cons,
      ih]

theorem integers_eq (h : Reshaped v w) (withKeys : Bool) :
    v.integers withKeys = w.integers withKeys := by
  induction h with
  | @array items _ =>
    have htexts : ∀ item ∈ items.map QueryValue.text, ∃ text, item = .text text := by
      intro item hitem
      obtain ⟨text, -, rfl⟩ := List.mem_map.1 hitem
      exact ⟨text, rfl⟩
    rw [QueryValue.integers, QueryValue.integers, QueryValue.itemIntegers_texts withKeys htexts,
      Query.numbered, Query.entryIntegers_numberedFrom]
  | @within before after key v w _ ih =>
    rw [QueryValue.integers, QueryValue.integers]
    induction before with
    | nil =>
      rw [List.nil_append, List.nil_append, QueryValue.entryIntegers, QueryValue.entryIntegers, ih]
    | cons entry before hbefore =>
      rw [List.cons_append, List.cons_append, QueryValue.entryIntegers, QueryValue.entryIntegers,
        hbefore]

theorem scalar_eq (h : Reshaped v w) (switches : Switches) (key : QueryKey) :
    Query.scalar switches key v = Query.scalar switches key w := by
  rw [Query.scalar, Query.scalar, Query.texts, Query.texts, QueryValue.joinedText,
    QueryValue.joinedText, h.integers_eq, h.flatten_eq]

theorem contributions_congr {switches : Switches} {key : QueryKey}
    (h : Query.contribution switches key v = Query.contribution switches key w)
    (before after : Query) :
    Query.contributions switches (before ++ (key, v) :: after) =
      Query.contributions switches (before ++ (key, w) :: after) := by
  induction before with
  | nil => rw [List.nil_append, List.nil_append, Query.contributions, Query.contributions, h]
  | cons entry before ih =>
    rw [List.cons_append, List.cons_append, Query.contributions, Query.contributions, ih]

/-- Whatever the parameter is and wherever the list is in it, the parameter contributes the
same. -/
theorem contribution_eq (h : Reshaped v w) (switches : Switches) (key : QueryKey) :
    Query.contribution switches key v = Query.contribution switches key w := by
  induction h generalizing key with
  | array hne =>
    have hscalar := (Reshaped.array hne).scalar_eq switches key
    rw [Query.contribution, Query.contribution, Query.readShape_numbered hne, hscalar]
    · rfl
    · exact nofun
  | @within before after inner v w h ih =>
    -- the mapping around it keeps its shape, and so both are read in the same way
    rw [Query.contribution, Query.contribution, h.within.scalar_eq switches key,
      Query.readShape_congr before after inner v w, contributions_congr (ih inner)]

theorem criteria_eq (h : Reshaped v w) (switches : Switches) (ignored : List String)
    (before after : Query) (key : QueryKey) :
    Query.criteria switches ignored (before ++ (key, v) :: after) =
      Query.criteria switches ignored (before ++ (key, w) :: after) := by
  have hfiltered : Query.filtered switches ignored (before ++ (key, v) :: after) =
      Query.filtered switches ignored (before ++ (key, w) :: after) := by
    rw [Query.filtered, Query.filtered, List.filter_append, List.filter_append, List.filter_cons,
      List.filter_cons]
    split
    · rw [contributions_congr (h.contribution_eq switches key)]
    · rfl
  rw [Query.criteria, Query.criteria, hfiltered]

/-! ### Options -/

theorem count_shown_numberedFrom (n : Nat) (items : List String) :
    ((Query.numberedFrom n items).flatMap fun entry => entry.1.shown ++ entry.2.shown).count '{' =
      (items.flatMap String.toList).count '{' := by
  induction items generalizing n with
  | nil => rfl
  | cons item items ih =>
    have hkey : (QueryKey.shown (.name (String.ofList (naturalText n)))).count '{' = 0 := by
      rw [QueryKey.shown, String.toList_ofList, Text.count_quoted]
      exact List.count_eq_zero.2 (brace_not_mem_naturalText n)
    have hitem : (QueryValue.shown (.text item)).count '{' = item.toList.count '{' :=
      Text.count_quoted item.toList
    rw [Query.numberedFrom, List.flatMap_cons, List.count_append, ih, List.count_append, hkey,
      hitem, Nat.zero_add, List.flatMap_cons, List.count_append]

/-- Inside a value the mapping is displayed with one brace more than the list. -/
theorem count_shown (h : Reshaped v w) : w.shown.count '{' = v.shown.count '{' + 1 := by
  induction h with
  | @array items _ =>
    rw [QueryValue.count_shown_nested, QueryValue.count_shown_list, Query.numbered,
      count_shown_numberedFrom, List.flatMap_map]
    refine congrArg (· + 1) (Text.count_flatMap_congr (fun item => ?_) items)
    exact (Text.count_quoted item.toList).symm
  | within _ ih =>
    simp only [QueryValue.count_shown_nested, List.flatMap_append, List.flatMap_cons,
      List.count_append, ih]
    omega

/-- The text from which options are read has one brace more, too. -/
theorem count_joined (h : Reshaped v w) :
    (Options.joined w).count '{' = (Options.joined v).count '{' + 1 := by
  have hcount := h.count_shown
  cases h with
  | @array items _ =>
    show (QueryValue.shown _).count '{' = (Text.joinWith ',' _).count '{' + 1
    rw [hcount, QueryValue.count_shown_list, Text.count_joinWith (by decide), ← List.flatMap_def,
      List.flatMap_map, List.flatMap_map]
    refine congrArg (· + 1) (Text.count_flatMap_congr (fun item => ?_) items)
    exact Text.count_quoted item.toList
  | within _ => exact hcount

/-- A name in the options of the mapping has a brace that no name in those of the list has. -/
theorem names_ne (h : Reshaped v w) : Options.names v ≠ Options.names w := by
  have hcount := h.count_joined
  intro heq
  rw [← Options.count_names, ← Options.count_names, heq] at hcount
  omega

theorem names_ne_nil (h : Reshaped v w) : Options.names w ≠ [] := by
  have hcount := h.count_joined
  intro heq
  rw [← Options.count_names, heq] at hcount
  exact absurd hcount (by simp)

theorem integer?_eq_none (h : Reshaped v w) : Options.integer? w = none := by
  cases h <;> exact Options.integer?_nested _

theorem ne_null (h : Reshaped v w) : v ≠ .null ∧ w ≠ .null := by
  cases h <;> exact ⟨nofun, nofun⟩

end Reshaped

namespace Query

variable {before : Query} {name : String} {v w : QueryValue}

theorem keyword?_middle (hkey : QueryKey.name name ∉ Entries.labels id before) (hv : v ≠ .null)
    (after : Query) : keyword? (before ++ (.name name, v) :: after) name = some v := by
  have hget : get? (before ++ (.name name, v) :: after) (.name name) = some v := by
    rw [get?, Entries.get?_append, Entries.get?_eq_none id hkey]
    exact if_pos rfl
  rw [keyword?, hget]
  split
  · next he => exact absurd (Option.some.inj he) hv
  · rfl

theorem keyword?_middle_of_ne {key : QueryKey} (hne : key ≠ .name name) (before after : Query)
    (v w : QueryValue) :
    keyword? (before ++ (key, v) :: after) name = keyword? (before ++ (key, w) :: after) name := by
  have hget : ∀ value, get? (before ++ (key, value) :: after) (.name name) =
      get? (before ++ after) (.name name) := by
    intro value
    rw [get?, get?, Entries.get?_append, Entries.get?_append]
    exact congrArg _ (if_neg hne)
  rw [keyword?, keyword?, hget, hget]

end Query

namespace Options

variable {k : Keywords} {greatest : Option Int} {before after : Query} {name : String}
  {v w : QueryValue}

/-- The names that a keyword gives. -/
def namesUnder (query : Query) (name : String) : List String :=
  ((query.keyword? name).map names).getD []

theorem namesUnder_middle (hkey : QueryKey.name name ∉ Entries.labels id before) (hv : v ≠ .null)
    (after : Query) : namesUnder (before ++ (.name name, v) :: after) name = names v := by
  rw [namesUnder, Query.keyword?_middle hkey hv]
  rfl

theorem namesUnder_middle_of_ne {other : String} (hne : name ≠ other) (before after : Query)
    (v w : QueryValue) :
    namesUnder (before ++ (.name name, v) :: after) other =
      namesUnder (before ++ (.name name, w) :: after) other := by
  rw [namesUnder, namesUnder,
    Query.keyword?_middle_of_ne (mt QueryKey.name.inj hne) before after v w]

/-! ### The projection -/

/-- The projection that names to leave out and names to show make. -/
def projectionOf (hidden shown : List String) : Option Projection :=
  if hidden = [] then if shown = [] then none else some (.only shown) else some (.allBut hidden)

theorem readProjection_eq (k : Keywords) (query : Query) :
    readProjection k query =
      projectionOf (namesUnder query k.omitted) (namesUnder query k.fields) := by
  unfold readProjection projectionOf namesUnder
  split
  · next hhidden =>
    rw [if_pos hhidden]
    split
    · next hshown => rw [if_pos hshown]
    · next hshown => rw [if_neg hshown]
  · next hhidden => rw [if_neg hhidden]

theorem projectionOf_of_hidden {hidden : List String} (h : hidden ≠ []) (s₁ s₂ : List String) :
    projectionOf hidden s₁ = projectionOf hidden s₂ := by
  rw [projectionOf, projectionOf, if_neg h, if_neg h]

theorem projectionOf_ne_of_hidden {h₁ h₂ : List String} (hne : h₁ ≠ h₂) (hnil : h₂ ≠ [])
    (s₁ s₂ : List String) : projectionOf h₁ s₁ ≠ projectionOf h₂ s₂ := by
  rw [projectionOf, projectionOf, if_neg hnil]
  split
  · split <;> simp
  · simpa using hne

theorem projectionOf_ne_of_shown {s₁ s₂ : List String} (hne : s₁ ≠ s₂) (hnil : s₂ ≠ []) :
    projectionOf [] s₁ ≠ projectionOf [] s₂ := by
  rw [projectionOf, projectionOf, if_pos rfl, if_pos rfl, if_neg hnil]
  split
  · simp
  · simpa using hne

/-! ### Lists and mappings -/

section Reshaped

variable (h : Reshaped v w) (hkey : QueryKey.name name ∉ Entries.labels id before)
include h hkey

theorem readProjection_reshaped_iff :
    readProjection k (before ++ (.name name, v) :: after) =
      readProjection k (before ++ (.name name, w) :: after) ↔
    name ≠ k.omitted ∧
      (name = k.fields → namesUnder (before ++ (.name name, v) :: after) k.omitted ≠ []) := by
  have hv := namesUnder_middle hkey h.ne_null.1 after
  have hw := namesUnder_middle hkey h.ne_null.2 after
  rw [readProjection_eq, readProjection_eq]
  by_cases homitted : name = k.omitted
  · subst homitted
    rw [hv, hw]
    exact iff_of_false (projectionOf_ne_of_hidden h.names_ne h.names_ne_nil _ _)
      fun hcondition => hcondition.1 rfl
  · rw [← namesUnder_middle_of_ne homitted before after v w]
    by_cases hhidden : namesUnder (before ++ (.name name, v) :: after) k.omitted = []
    · by_cases hfields : name = k.fields
      · subst hfields
        rw [hhidden, hv, hw]
        exact iff_of_false (projectionOf_ne_of_shown h.names_ne h.names_ne_nil)
          fun hcondition => hcondition.2 rfl rfl
      · rw [namesUnder_middle_of_ne hfields before after v w]
        exact iff_of_true rfl ⟨homitted, fun he => absurd he hfields⟩
    · exact iff_of_true (projectionOf_of_hidden hhidden _ _) ⟨homitted, fun _ => hhidden⟩

theorem readSort_reshaped_iff :
    readSort k (before ++ (.name name, v) :: after) =
      readSort k (before ++ (.name name, w) :: after) ↔ name ≠ k.sort := by
  by_cases hname : name = k.sort
  · subst hname
    refine iff_of_false ?_ fun hne => hne rfl
    -- the names to sort by would have equally many braces
    intro heq
    have hcount := h.count_joined
    have hv := count_readSort (Query.keyword?_middle hkey h.ne_null.1 after)
    have hw := count_readSort (Query.keyword?_middle hkey h.ne_null.2 after)
    rw [heq, hw] at hv
    omega
  · rw [readSort, readSort,
      Query.keyword?_middle_of_ne (mt QueryKey.name.inj hname) before after v w]
    exact iff_of_true rfl hname

theorem readSkip_reshaped_iff :
    (readSkip k (before ++ (.name name, v) :: after)).1 =
      (readSkip k (before ++ (.name name, w) :: after)).1 ↔
    (name = k.offset → integer? v = none) := by
  by_cases hname : name = k.offset
  · subst hname
    have hv := Query.keyword?_middle hkey h.ne_null.1 after
    have hw := Query.keyword?_middle hkey h.ne_null.2 after
    simp only [readSkip, hv, hw, h.integer?_eq_none, true_imp_iff]
    cases integer? v <;> simp
  · rw [readSkip, readSkip,
      Query.keyword?_middle_of_ne (mt QueryKey.name.inj hname) before after v w]
    exact iff_of_true rfl fun he => absurd he hname

theorem readLimit_reshaped_iff :
    (readLimit k greatest (before ++ (.name name, v) :: after)).1 =
      (readLimit k greatest (before ++ (.name name, w) :: after)).1 ↔
    (name = k.limit → (readLimit k greatest (before ++ (.name name, v) :: after)).1 = greatest) := by
  by_cases hname : name = k.limit
  · subst hname
    have hw := Query.keyword?_middle hkey h.ne_null.2 after
    have hread : (readLimit k greatest (before ++ (.name k.limit, w) :: after)).1 = greatest := by
      rw [readLimit, hw]
      simp only [h.integer?_eq_none, Option.filter_none]
    rw [hread]
    exact ⟨fun heq _ => heq, fun himp => himp rfl⟩
  · rw [readLimit, readLimit,
      Query.keyword?_middle_of_ne (mt QueryKey.name.inj hname) before after v w]
    exact iff_of_true rfl fun he => absurd he hname

/-- The options of the mapping are those of the list exactly if nothing is read from the
parameter: it is no keyword, or a keyword whose value counts for nothing. -/
theorem read_reshaped_iff :
    (read k greatest (before ++ (.name name, v) :: after)).1 =
      (read k greatest (before ++ (.name name, w) :: after)).1 ↔
    name ≠ k.omitted ∧ name ≠ k.sort ∧
      (name = k.fields → namesUnder (before ++ (.name name, v) :: after) k.omitted ≠ []) ∧
      (name = k.offset → integer? v = none) ∧
      (name = k.limit →
        (readLimit k greatest (before ++ (.name name, v) :: after)).1 = greatest) := by
  rw [read, read, Options.mk.injEq, readProjection_reshaped_iff h hkey,
    readSort_reshaped_iff h hkey, readSkip_reshaped_iff h hkey, readLimit_reshaped_iff h hkey]
  tauto

end Reshaped
end Options

namespace Config

/-- A list and the mapping that numbers its items give the same criteria, wherever they stand.
They give the same options exactly if the parameter is no keyword, or counts for nothing: names
to show where there are names to leave out, an offset that is no number, or a limit that leaves
the greatest limit in force. -/
theorem list_read_as_numbered_iff (c : Config) {before after : Query} {key : QueryKey}
    {v w : QueryValue} (h : Reshaped v w) (hkey : key ∉ Entries.labels id before) :
    Query.criteria c.switches c.ignoredFields (before ++ (key, v) :: after) =
      Query.criteria c.switches c.ignoredFields (before ++ (key, w) :: after) ∧
    ((Options.read c.keywords c.maxLimit (before ++ (key, v) :: after)).1 =
        (Options.read c.keywords c.maxLimit (before ++ (key, w) :: after)).1 ↔
      ∀ name, key = .name name →
        name ≠ c.keywords.omitted ∧ name ≠ c.keywords.sort ∧
        (name = c.keywords.fields →
          Options.namesUnder (before ++ (key, v) :: after) c.keywords.omitted ≠ []) ∧
        (name = c.keywords.offset → Options.integer? v = none) ∧
        (name = c.keywords.limit →
          (Options.readLimit c.keywords c.maxLimit (before ++ (key, v) :: after)).1 =
            c.maxLimit)) := by
  refine ⟨h.criteria_eq c.switches c.ignoredFields before after key, ?_⟩
  cases key with
  | index n =>
    refine iff_of_true ?_ nofun
    have hne : ∀ name, QueryKey.index n ≠ .name name := nofun
    rw [Options.read_congr fun name _ => Query.keyword?_middle_of_ne (hne name) before after v w]
  | name name =>
    rw [Options.read_reshaped_iff h hkey]
    constructor
    · rintro hcondition _ ⟨⟩
      exact hcondition
    · exact fun hcondition => hcondition name rfl

/-- The last of these limits is no number, and so none is taken from the list either. -/
theorem list_read_as_numbered_unusable_limit :
    let query (value : QueryValue) : Query := [(.name "a", .text "1"), (.name "limit", value)]
    let items := ["5", "x"]
    Query.criteria {} (ignoredFields {}) (query (.list (items.map .text))) =
      Query.criteria {} (ignoredFields {}) (query (.nested (Query.numbered items))) ∧
    (Options.read {} none (query (.list (items.map .text)))).1 =
      (Options.read {} none (query (.nested (Query.numbered items)))).1 := by
  intro query items
  have hitems : items ≠ [] := by decide
  obtain ⟨hcriteria, hoptions⟩ := @list_read_as_numbered_iff {} [(.name "a", .text "1")] []
    (.name "limit") _ _ (.array hitems) (by decide)
  refine ⟨hcriteria, hoptions.2 ?_⟩
  rintro _ ⟨⟩
  exact ⟨by decide, by decide, by decide, by decide, fun _ => rfl⟩

/-- Names to show are taken from a list, but of the mapping the text that displays it is taken
for names. -/
theorem numbered_fields_displayed :
    let listed : Query := [(.name "fields", .list [.text "a", .text "b"])]
    let numbered : Query := [(.name "fields", .nested (Query.numbered ["a", "b"]))]
    (Options.read {} none listed).1.projection = some (.only ["a", "b"]) ∧
    (Options.read {} none numbered).1.projection =
      some (.only ["\x7b'0': 'a'", "'1': 'b'\x7d"]) ∧
    (Options.read {} none listed).1 ≠ (Options.read {} none numbered).1 := by
  decide +kernel

end Config
end QueryCriteria
