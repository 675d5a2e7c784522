import QueryCriteria.Proofs.IntegerLiteral
import QueryCriteria.Proofs.Written

/-!
Options of queries.  Without keyword parameters nothing is set but the greatest limit;
numbers that are read stay in their bounds; and another offset changes nothing but what is
skipped.
-/
namespace QueryCriteria
namespace Options

/-- The options are read exactly if their texts can be written. -/
theorem ofQuery_eq_ok_iff {k : Keywords} {greatest : Option Int} {query : Query}
    {found : Options × List Notice} : ofQuery k greatest query = .ok found ↔
      (∀ n ∈ integers k query, isWritable n = true) ∧ read k greatest query = found := by
  rw [ofQuery, Fallible.map_eq_ok_iff]
  constructor
  · rintro ⟨u, hcheck, hread⟩
    exact ⟨checkWritable_eq_ok_iff.1 hcheck, hread⟩
  · rintro ⟨hall, hread⟩
    exact ⟨(), checkWritable_eq_ok_iff.2 hall, hread⟩

theorem ofQuery_of_absent {k : Keywords} {query : Query}
    (h : ∀ name ∈ k.names, query.get? (.name name) = none) (greatest : Option Int) :
    ofQuery k greatest query = .ok ({ limit := greatest }, []) := by
  have hkeyword : ∀ name ∈ k.names, query.keyword? name = none := by
    intro name hn
    rw [Query.keyword?, h name hn]
  have hfields := hkeyword k.fields (by simp [Keywords.names])
  have homitted := hkeyword k.omitted (by simp [Keywords.names])
  have hsort := hkeyword k.sort (by simp [Keywords.names])
  have hoffset := hkeyword k.offset (by simp [Keywords.names])
  have hlimit := hkeyword k.limit (by simp [Keywords.names])
  have hintegers : integers k query = [] := by
    simp only [integers, hfields, homitted, hsort, hoffset, hlimit, Option.elim_none]
    rfl
  refine ofQuery_eq_ok_iff.2 ⟨?_, ?_⟩
  · rw [hintegers]
    exact nofun
  · simp only [read, readSkip, readLimit, readSort, readProjection, hfields, homitted, hsort,
      hoffset, hlimit]
    rfl

/-- Options depend on nothing but the values of the keywords. -/
theorem read_congr {k : Keywords} {q₁ q₂ : Query}
    (h : ∀ name ∈ k.names, q₁.keyword? name = q₂.keyword? name) (greatest : Option Int) :
    read k greatest q₁ = read k greatest q₂ := by
  have hfields := h k.fields (by simp [Keywords.names])
  have homitted := h k.omitted (by simp [Keywords.names])
  have hsort := h k.sort (by simp [Keywords.names])
  have hoffset := h k.offset (by simp [Keywords.names])
  have hlimit := h k.limit (by simp [Keywords.names])
  simp only [read, readSkip, readLimit, readSort, readProjection, hfields, homitted, hsort, hoffset,
    hlimit]

/-! ### Bounds -/

theorem readSkip_nonneg {k : Keywords} {query : Query} {n : Int}
    (h : (readSkip k query).1 = some n) : 0 ≤ n := by
  unfold readSkip at h
  split at h
  · cases h
  · split at h
    · cases h
    · obtain rfl := Option.some.inj h
      omega

theorem readSkip_of_integer {k : Keywords} {query : Query} {value : QueryValue} {n : Int}
    (hk : query.keyword? k.offset = some value) (hi : integer? value = some n) :
    readSkip k query = (some (max 0 n), []) := by
  rw [readSkip, hk]
  simp only [hi]

theorem readLimit_pos {k : Keywords} {greatest : Option Int} (hg : ∀ g, greatest = some g → 0 < g)
    {query : Query} {n : Int} (h : (readLimit k greatest query).1 = some n) : 0 < n := by
  unfold readLimit at h
  split at h
  · exact hg n h
  · split at h
    · exact hg n h
    · next m hm =>
      obtain rfl := Option.some.inj h
      have hpos := (Option.filter_eq_some_iff.1 hm).2
      rw [decide_eq_true_eq] at hpos
      omega
    · next m g hm =>
      have hpos := (Option.filter_eq_some_iff.1 hm).2
      rw [decide_eq_true_eq] at hpos
      split at h
      · obtain rfl := Option.some.inj h
        exact hg _ rfl
      · obtain rfl := Option.some.inj h
        omega

/-! ### Another offset -/

/-- An integer that is not too long is read back from its text. -/
theorem integer?_integerText {n : Int} (h : isWritable n = true) :
    integer? (.text (String.ofList (integerText n))) = some n := by
  have htrim : Text.trim (integerText n) = integerText n := by
    rw [← IntegerLiteral.text_ofInt]
    refine Text.strip_of_forall fun c hc => ?_
    have hascii := IntegerLiteral.ascii_of_mem_text hc
    exact Text.isBlank_of_ascii hascii.1 hascii.2
  have hread : readInteger? (integerText n) = some n := by
    have hliteral := IntegerLiteral.readInteger?_text ((IntegerLiteral.isShort_ofInt n).trans h)
    rwa [IntegerLiteral.text_ofInt, IntegerLiteral.value_ofInt] at hliteral
  show readWholePart? (String.ofList (integerText n)).toList = some n
  rw [String.toList_ofList, readWholePart?, htrim, hread]

section Insert

variable {k : Keywords} {query : Query} {key : String} {value : QueryValue}

theorem keyword?_insert_self (hv : value ≠ .null) :
    (query.insert (.name key) value).keyword? key = some value := by
  unfold Query.keyword? Query.insert Query.get?
  rw [Entries.get?_insert_self]
  split
  · next he => exact absurd (Option.some.inj he) hv
  · rfl

theorem keyword?_insert_of_ne {name : String} (h : key ≠ name) :
    (query.insert (.name key) value).keyword? name = query.keyword? name := by
  have hlabel : id (QueryKey.name key) ≠ id (QueryKey.name name) := by
    intro he
    exact h (QueryKey.name.inj he)
  unfold Query.keyword? Query.insert Query.get?
  rw [Entries.get?_insert_of_ne id hlabel]

theorem readProjection_insert (ho : key ≠ k.omitted) (hf : key ≠ k.fields) :
    readProjection k (query.insert (.name key) value) = readProjection k query := by
  rw [readProjection, keyword?_insert_of_ne ho, keyword?_insert_of_ne hf]
  rfl

theorem readSort_insert (h : key ≠ k.sort) :
    readSort k (query.insert (.name key) value) = readSort k query := by
  rw [readSort, keyword?_insert_of_ne h]
  rfl

theorem readLimit_insert (h : key ≠ k.limit) (greatest : Option Int) :
    readLimit k greatest (query.insert (.name key) value) = readLimit k greatest query := by
  rw [readLimit, keyword?_insert_of_ne h]
  rfl

/-- Options are read as before but for what is skipped, if no other keyword has the name of
the offset. -/
theorem read_insert_offset (h : k.offset ∉ [k.fields, k.omitted, k.sort, k.limit])
    (greatest : Option Int) {n : Int} (hn : 0 ≤ n) (hw : isWritable n = true) :
    read k greatest
        (query.insert (.name k.offset) (.text (String.ofList (integerText n)))) =
      ({ (read k greatest query).1 with skip := some n }, (readLimit k greatest query).2) := by
  simp only [List.mem_cons, List.not_mem_nil, or_false, not_or] at h
  obtain ⟨hfields, homitted, hsort, hlimit⟩ := h
  have hskip : readSkip k (query.insert (.name k.offset)
      (.text (String.ofList (integerText n)))) = (some n, []) := by
    rw [readSkip_of_integer (keyword?_insert_self (by simp)) (integer?_integerText hw),
      Int.max_eq_right hn]
  rw [read, hskip, readProjection_insert homitted hfields, readSort_insert hsort,
    readLimit_insert hlimit]
  rfl

/-- With a text for the offset, no more has to be written than before. -/
theorem mem_integers_of_insert_offset (h : k.offset ∉ [k.fields, k.omitted, k.sort, k.limit])
    {text : String} {n : Int}
    (hn : n ∈ integers k (query.insert (.name k.offset) (.text text))) : n ∈ integers k query := by
  simp only [List.mem_cons, List.not_mem_nil, or_false, not_or] at h
  obtain ⟨hfields, homitted, hsort, hlimit⟩ := h
  have hoffset : ((query.insert (.name k.offset) (.text text)).keyword? k.offset).elim []
      numberIntegers = [] := by
    rw [keyword?_insert_self (by simp)]
    rfl
  simp only [integers, keyword?_insert_of_ne hfields, keyword?_insert_of_ne homitted,
    keyword?_insert_of_ne hsort, keyword?_insert_of_ne hlimit, hoffset, List.append_nil] at hn
  rw [List.mem_append] at hn
  rw [integers, List.mem_append, List.mem_append]
  exact hn.imp_left .inl

end Insert
end Options
end QueryCriteria
