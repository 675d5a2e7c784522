import QueryCriteria.Proofs.FieldTest
import QueryCriteria.Proofs.Selection

/-!
Canonical query strings.  Criteria that map fields to scalars, or to operators with their
operands, are written with one expression for each comparison, and reading the query string
gives the criteria back.
-/
namespace QueryCriteria

/-- What criteria hold for a field: a scalar, or the operators of some tests, none of them
set twice. -/
inductive FieldContent where
  | scalar (s : Scalar)
  | tests (first : FieldTest) (rest : List FieldTest)
      (distinct : (Entries.labels Key.label
        (first.entries ++ (rest.map FieldTest.entries).flatten)).Nodup)

namespace FieldContent

def value : FieldContent → Value
  | scalar s => s.value
  | tests first rest _ => .map (first.entries ++ (rest.map FieldTest.entries).flatten)

/-- The expressions for a field, each with the value that it gives the field. -/
def expressions (field : List Char) : FieldContent → List (List Char × Value)
  | scalar s => [(field ++ '=' :: s.token, s.value)]
  | tests first rest _ => (first :: rest).map fun t => (t.expression field, .map t.entries)

end FieldContent

/-- A field that no keyword names, and what criteria hold for it. -/
structure FieldCriteria where
  field : String
  isField : Expression.IsField field.toList
  free : field ∉ ({} : Keywords).names
  content : FieldContent

namespace FieldCriteria

def entry (f : FieldCriteria) : Key × Value := (.field f.field, f.content.value)

/-- The expressions for a field with the comparisons that they write. -/
def comparisons (f : FieldCriteria) : List (List Char × Comparison) :=
  (f.content.expressions f.field.toList).map fun e => (e.1, { field := f.field, value := e.2 })

theorem field_of_mem_comparisons {f : FieldCriteria} {p : List Char × Comparison}
    (h : p ∈ f.comparisons) : p.2.field = f.field := by
  obtain ⟨e, -, rfl⟩ := List.mem_map.1 h
  rfl

theorem parse_scalar {field : List Char} (h : Expression.IsField field) (s : Scalar) :
    Comparison.parse {} (String.ofList (field ++ '=' :: s.token)) (String.ofList []) =
      .ok (some { field := String.ofList field, value := s.value }) := by
  have hone : [(false, s)] ≠ [] := List.cons_ne_nil _ _
  have hread : Expression.read? (field ++ '=' :: s.token) =
      some { field, test := some (.equal, s.token) } := by
    refine Expression.read?_test h ?_ (FieldTest.readTest?_members hone)
    intro c hc
    rw [← Option.some.inj hc]
    decide
  have hmark : s.token ≠ ['!'] := FieldTest.joinWith_ne_mark hone
  have htokens : TokenList.tokens {} (String.ofList s.token) =
      .ok [{ negated := false, value := s.value }] := Scalar.tokens_joinWith [(false, s)]
  exact Comparison.parse_of_test hread (Comparison.ofTest_equal hmark htokens)

/-- Every expression for a field is read as its comparison. -/
theorem parse_comparison {f : FieldCriteria} {p : List Char × Comparison} (h : p ∈ f.comparisons) :
    Comparison.parse {} (String.ofList p.1) (String.ofList []) = .ok (some p.2) := by
  have hname : String.ofList f.field.toList = f.field := String.ofList_toList
  obtain ⟨e, he, rfl⟩ := List.mem_map.1 h
  unfold FieldContent.expressions at he
  split at he
  · obtain rfl := List.mem_singleton.1 he
    rw [parse_scalar f.isField, hname]
  · obtain ⟨t, -, rfl⟩ := List.mem_map.1 he
    rw [FieldTest.parse_expression f.isField, hname]

/-! ### Expressions are told apart -/

/-- Two expressions for a field give it different values. -/
theorem pairwise_comparisons (f : FieldCriteria) :
    f.comparisons.Pairwise fun p q => p.2 ≠ q.2 := by
  rw [comparisons, List.pairwise_map]
  unfold FieldContent.expressions
  split
  · exact List.pairwise_singleton _ _
  · next first rest distinct _ =>
    rw [List.pairwise_map]
    have hlabels : ((first :: rest).flatMap fun t => Entries.labels Key.label t.entries).Nodup := by
      have h : Entries.labels Key.label (first.entries ++ (rest.map FieldTest.entries).flatten) =
          (first :: rest).flatMap fun t => Entries.labels Key.label t.entries := by
        simp [Entries.labels, List.flatMap_def, List.map_flatten, Function.comp_def]
      rwa [h] at distinct
    refine (List.nodup_flatMap.1 hlabels).2.imp ?_
    intro t u hdisjoint he
    have hentries : t.entries = u.entries := by
      injection he with _ hvalue
      injection hvalue
    obtain ⟨e, es, hes⟩ := List.exists_cons_of_ne_nil t.entries_ne_nil
    have hmem : e.1.label ∈ Entries.labels Key.label t.entries := by
      rw [hes]
      exact List.mem_cons_self
    have hmem' : e.1.label ∈ Entries.labels Key.label u.entries := by
      rwa [← hentries]
    exact hdisjoint hmem hmem'

/-- An expression is never a keyword. -/
theorem expression_not_keyword {f : FieldCriteria} {p : List Char × Comparison}
    (h : p ∈ f.comparisons) : String.ofList p.1 ∉ ({} : Keywords).names := by
  have hcases : p.1 = f.field.toList ∨ ∃ c ∈ p.1, Expression.isSpecial c = true := by
    obtain ⟨e, he, rfl⟩ := List.mem_map.1 h
    unfold FieldContent.expressions at he
    split at he
    · obtain rfl := List.mem_singleton.1 he
      exact .inr ⟨'=', by simp, by decide⟩
    · obtain ⟨t, -, rfl⟩ := List.mem_map.1 he
      exact t.expression_cases f.field.toList
  rcases hcases with hfield | ⟨c, hc, hs⟩
  · rw [hfield, String.ofList_toList]
    exact f.free
  · exact Selection.not_keyword_of_special hc hs

/-- The comparisons for a new field give it what the criteria hold for it. -/
theorem addAll_comparisons {f : FieldCriteria} {criteria : Criteria}
    (h : f.entry.1.label ∉ Entries.labels Key.label criteria) :
    criteria.addAll (f.comparisons.map fun p => (.field p.2.field, p.2.value)) =
      criteria ++ [f.entry] := by
  have hmap : f.comparisons.map (fun p => (Key.field p.2.field, p.2.value)) =
      (f.content.expressions f.field.toList).map fun e => (.field f.field, e.2) := by
    rw [comparisons, List.map_map]
    rfl
  rw [hmap]
  rw [entry] at h ⊢
  cases f.content with
  | scalar s => exact Criteria.add_new h s.value
  | tests first rest distinct =>
    have hblock := Criteria.addAll_block h distinct
    rw [FieldContent.expressions, List.map_map, FieldContent.value, ← hblock, List.map_cons,
      List.map_cons, List.map_map]
    rfl

end FieldCriteria

/-- Criteria for distinct fields. -/
structure CanonicalCriteria where
  fields : List FieldCriteria
  distinct : (fields.map (·.field)).Nodup

namespace CanonicalCriteria

def criteria (m : CanonicalCriteria) : Criteria := m.fields.map FieldCriteria.entry

def comparisons (m : CanonicalCriteria) : List (List Char × Comparison) :=
  m.fields.flatMap FieldCriteria.comparisons

/-- One key for each expression, percent-encoded as a whole. -/
def text (m : CanonicalCriteria) : List Char :=
  Text.joinWith '&' (m.comparisons.map fun p => Form.percentEncode p.1)

theorem parse_comparison {m : CanonicalCriteria} {p : List Char × Comparison}
    (h : p ∈ m.comparisons) :
    Comparison.parse {} (String.ofList p.1) (String.ofList []) = .ok (some p.2) := by
  obtain ⟨f, -, hp⟩ := List.mem_flatMap.1 h
  exact FieldCriteria.parse_comparison hp

/-- Expressions that were equal would be read as equal comparisons. -/
theorem nodup_expressions (m : CanonicalCriteria) : (m.comparisons.map (·.1)).Nodup := by
  have hne : m.comparisons.Pairwise fun p q => p.2 ≠ q.2 := by
    rw [comparisons, List.pairwise_flatMap]
    refine ⟨fun f _ => f.pairwise_comparisons, ?_⟩
    refine (List.pairwise_map.1 m.distinct).imp ?_
    intro f g hfield p hp q hq he
    refine hfield ?_
    rw [← FieldCriteria.field_of_mem_comparisons hp, he, FieldCriteria.field_of_mem_comparisons hq]
  rw [List.Nodup, List.pairwise_map]
  refine hne.imp_of_mem ?_
  intro p q hp hq hpq he
  have hread := parse_comparison hp
  rw [he, parse_comparison hq] at hread
  exact hpq (Option.some.inj (Except.ok.inj hread)).symm

theorem parse_text (m : CanonicalCriteria) :
    Flat.parse m.text = m.comparisons.map fun p => (Flat.nameOf p.1, Flat.held [[]]) := by
  have hne : ∀ s ∈ m.comparisons.map fun p => Form.percentEncode p.1, s ≠ [] := by
    refine List.forall_mem_map.2 fun p hp => Form.ne_nil_of_decode ?_
    rw [Form.decode_percentEncode]
    intro hnil
    have hread := parse_comparison hp
    rw [hnil] at hread
    cases hread
  have hpairs : (m.comparisons.map fun p => Form.percentEncode p.1).map Form.readPair =
      m.comparisons.map fun p => (p.1, []) := by
    rw [List.map_map]
    refine List.map_congr_left fun p _ => ?_
    show Form.readPair (Form.percentEncode p.1) = _
    rw [Form.readPair_name (Form.not_mem_percentEncode (by decide) (by decide) _),
      Form.decode_percentEncode]
  have hnames : ((m.comparisons.map fun p => (p.1, ([] : List Char))).map (·.1)).Nodup := by
    rw [List.map_map]
    exact m.nodup_expressions
  have hampersand : ∀ s ∈ m.comparisons.map fun p => Form.percentEncode p.1, '&' ∉ s :=
    List.forall_mem_map.2 fun p _ => Form.not_mem_percentEncode (by decide) (by decide) p.1
  have hquestion : ∀ s ∈ m.comparisons.map fun p => Form.percentEncode p.1, '?' ∉ s :=
    List.forall_mem_map.2 fun p _ => Form.not_mem_percentEncode (by decide) (by decide) p.1
  rw [text, Flat.parse_joinWith hne hampersand hquestion, hpairs, Flat.grouped_of_nodup hnames,
    List.map_map]
  rfl

/-- Field by field, the comparisons make up the criteria. -/
theorem addAll_comparisons {fields : List FieldCriteria} {base : Criteria}
    (h : (Entries.labels Key.label (base ++ fields.map FieldCriteria.entry)).Nodup) :
    base.addAll ((fields.flatMap FieldCriteria.comparisons).map fun p =>
      (.field p.2.field, p.2.value)) = base ++ fields.map FieldCriteria.entry := by
  induction fields generalizing base with
  | nil => exact (List.append_nil base).symm
  | cons f fields ih =>
    have hsplit : base ++ (f :: fields).map FieldCriteria.entry =
        (base ++ [f.entry]) ++ fields.map FieldCriteria.entry := by simp
    have hnew : f.entry.1.label ∉ Entries.labels Key.label base := by
      rw [Entries.labels_append, List.nodup_append] at h
      intro hm
      exact h.2.2 _ hm _ List.mem_cons_self rfl
    rw [hsplit] at h ⊢
    rw [List.flatMap_cons, List.map_append, Criteria.addAll_append,
      FieldCriteria.addAll_comparisons hnew, ih h]

theorem nodup_labels (m : CanonicalCriteria) : (Entries.labels Key.label m.criteria).Nodup := by
  have hlabels : Entries.labels Key.label m.criteria =
      (m.fields.map (·.field)).map Key.Label.text := by
    rw [Entries.labels, criteria, List.map_map, List.map_map]
    rfl
  rw [hlabels]
  refine m.distinct.map ?_
  intro a b hab
  exact Key.Label.text.inj hab

/-- Reading undoes writing: a canonical query string gives the criteria that it was written
for, without options and without notices. -/
theorem ofText_text (m : CanonicalCriteria) :
    Selection.ofText {} (String.ofList m.text) =
      .ok ({ criteria := m.criteria, options := {}, query := Flat.parse m.text, config := {} },
        []) := by
  have hcriteria : Criteria.ofValues (m.comparisons.map fun p => (.field p.2.field, p.2.value)) =
      m.criteria := by
    rw [Criteria.ofValues_eq_addAll]
    exact addAll_comparisons m.nodup_labels
  rw [← hcriteria]
  refine Selection.ofText_of_comparisons m.parse_text (fun p hp => parse_comparison hp) ?_ ?_
  · intro p hp
    obtain ⟨f, -, hf⟩ := List.mem_flatMap.1 hp
    exact FieldCriteria.expression_not_keyword hf
  · intro p hp
    obtain ⟨f, -, hf⟩ := List.mem_flatMap.1 hp
    rw [FieldCriteria.field_of_mem_comparisons hf]
    exact f.free

/-- Two tests of an age, and a list of names in which one is excluded. -/
def ageAndNames : CanonicalCriteria where
  fields :=
    [{ field := "age", isField := ⟨by decide, by simp [Expression.isSpecial]⟩, free := by decide,
       content := .tests (.order .atLeast (.int 18 (by decide)))
         [.differs (.str .single "x y")] (by decide) },
     { field := "name", isField := ⟨by decide, by simp [Expression.isSpecial]⟩, free := by decide,
       content := .tests (.members [.str .double "a,b"] [.str .single "true"] (by decide))
         [] (by decide) }]
  distinct := by decide

theorem ofText_ageAndNames :
    ageAndNames.text =
        "age%3E%3D18&age%21%3D%27x%20y%27&name%3D%22a%2Cb%22%2C%21%27true%27".toList ∧
      (Selection.ofText {} (String.ofList ageAndNames.text)).map
          (fun result => (result.1.criteria, result.2)) =
        .ok ([(.field "age", .map [(.comparison .ge, .int 18), (.comparison .ne, .str "x y")]),
          (.field "name", .map [(.comparison .among, .list [.str "a,b"]),
            (.comparison .notAmong, .list [.str "true"])])], []) := by
  refine ⟨by decide, ?_⟩
  rw [ofText_text ageAndNames]
  rfl

end CanonicalCriteria
end QueryCriteria
