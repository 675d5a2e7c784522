import QueryCriteria.Proofs.Faults
import QueryCriteria.Proofs.Options
import QueryCriteria.Selection

/-!
The readings that a query is made of, at any depth, and whether all of them succeed.  The keys of
a mapping are compared with positions, and a parameter that is no mapping, or a list in disguise,
is read as a comparison.  A query is read without a fault exactly if each reading succeeds, and,
but for regular expressions, a reading has a fault exactly if a text is missing: an integer key has
no value beside it, or an integer has too many digits to be written.
-/
namespace QueryCriteria
namespace Query

/-- The parameters that are not ignored by their own name. -/
def unignored (ignored : List String) (query : Query) : Query :=
  query.filter fun entry => !isIgnored ignored entry.1

/-- The text that a parameter is read from. -/
def textOf (p : QueryKey × QueryValue) : List Char :=
  Comparison.parameterText p.1.display p.2.flatten

/-- A parameter without a value under an integer key is no text. -/
def IsNoText (p : QueryKey × QueryValue) : Prop := (∃ n, p.1 = .index n) ∧ p.2.flatten = []

/-! ### Texts of a parameter -/

section Texts

variable {switches : Switches} {key : QueryKey} {value : QueryValue} {fault : Fault}

theorem exists_keyText_iff {joined : List Char} : (∃ text, keyText key joined = .ok text) ↔
    ¬((∃ n, key = .index n) ∧ joined = []) ∧ ∀ n ∈ key.integers, isWritable n = true := by
  cases key with
  | name text =>
    refine iff_of_true ⟨text, rfl⟩ ⟨?_, ?_⟩
    · rintro ⟨⟨n, hkey⟩, -⟩
      cases hkey
    · intro n hn
      cases hn
  | index n =>
    rw [keyText]
    split
    · next hblank =>
      refine iff_of_false ?_ fun h => h.1 ⟨⟨n, rfl⟩, hblank⟩
      rintro ⟨text, htext⟩
      cases htext
    · next hvalue =>
      have hpresent : ¬((∃ m, QueryKey.index n = .index m) ∧ joined = []) := fun h => hvalue h.2
      rw [Fallible.exists_map_ok_iff, and_iff_right hpresent]
      constructor
      · rintro ⟨u, hcheck⟩
        exact checkWritable_eq_ok_iff.1 hcheck
      · exact fun hall => ⟨(), checkWritable_eq_ok_iff.2 hall⟩

theorem fault_of_keyText {joined : List Char} (h : keyText key joined = .error fault) :
    fault = .keyIsNoText ∨ fault = .integerTooLong := by
  cases key with
  | name text => cases h
  | index n =>
    rw [keyText] at h
    split at h
    · exact .inl (Except.error.inj h).symm
    · exact .inr (eq_of_checkWritable_error (Fallible.map_eq_error_iff.1 h))

theorem exists_texts_iff : (∃ read, texts key value = .ok read) ↔ ¬IsNoText (key, value) ∧
    ∀ n ∈ key.integers ++ value.integers false, isWritable n = true := by
  rw [List.forall_mem_append]
  constructor
  · rintro ⟨read, h⟩
    obtain ⟨joined, hjoined, h⟩ := Fallible.bind_eq_ok_iff.1 h
    obtain ⟨text, htext, -⟩ := Fallible.map_eq_ok_iff.1 h
    obtain ⟨hvalue, rfl⟩ := QueryValue.joinedText_eq_ok_iff.1 hjoined
    obtain ⟨hpresent, hkey⟩ := exists_keyText_iff.1 ⟨text, htext⟩
    exact ⟨hpresent, hkey, hvalue⟩
  · rintro ⟨hpresent, hkey, hvalue⟩
    obtain ⟨text, htext⟩ := exists_keyText_iff.2 ⟨hpresent, hkey⟩
    exact ⟨_, Fallible.bind_eq_ok_iff.2 ⟨_, QueryValue.joinedText_eq_ok_iff.2 ⟨hvalue, rfl⟩,
      Fallible.map_eq_ok_iff.2 ⟨text, htext, rfl⟩⟩⟩

theorem fault_of_texts (h : texts key value = .error fault) :
    fault = .keyIsNoText ∨ fault = .integerTooLong := by
  rw [texts] at h
  cases hjoined : value.joinedText with
  | error other =>
    rw [hjoined] at h
    obtain rfl := Except.error.inj h
    exact .inr (eq_of_checkWritable_error (Fallible.map_eq_error_iff.1 hjoined))
  | ok joined =>
    rw [hjoined] at h
    exact fault_of_keyText (Fallible.map_eq_error_iff.1 h)

/-- A parameter that has its texts is read, unless a pattern in it has a fault. -/
theorem fault_of_scalar (h : scalar switches key value = .error fault) :
    texts key value = .error fault ∨ Regex.FaultIn (textOf (key, value)) fault := by
  rw [scalar] at h
  cases htexts : texts key value with
  | error other =>
    rw [htexts] at h
    obtain rfl := Except.error.inj h
    exact .inl rfl
  | ok read =>
    rw [htexts] at h
    obtain ⟨hkey, hvalue⟩ := eq_of_texts htexts
    have hin := Comparison.faultIn_of_parse (Fallible.map_eq_error_iff.1 h)
    rw [hkey, hvalue, String.toList_ofList] at hin
    exact .inr hin

theorem exists_texts_of_scalar {c : Contribution} (h : scalar switches key value = .ok c) :
    ∃ read, texts key value = .ok read := by
  obtain ⟨read, hread, -⟩ := Fallible.bind_eq_ok_iff.1 h
  exact ⟨read, hread⟩

end Texts

/-! ### Readings -/

/-- What is read of a query at one time. -/
inductive Reading where
  /-- The keys of a mapping are compared with positions. -/
  | shape (entries : Query)
  /-- A parameter is read as a comparison. -/
  | comparison (key : QueryKey) (value : QueryValue)

namespace Reading

def run (switches : Switches) : Reading → Except Fault Unit
  | shape entries => Fallible.outcome (readShape entries)
  | comparison key value => Fallible.outcome (scalar switches key value)

/-- A parameter is read that is no text. -/
def LacksText : Reading → Prop
  | shape _ => False
  | comparison key value => IsNoText (key, value)

/-- The integers in the texts that are read. -/
def integers : Reading → List Int
  | shape entries => positionIntegers 0 entries
  | comparison key value => key.integers ++ value.integers false

/-- The patterns in the text that is read can be compiled, or they are refused as mistakes. -/
def Compiles : Reading → Prop
  | shape _ => True
  | comparison key value => ∀ pattern ignoreCase,
      '/' :: (pattern ++ ['/']) <:+: textOf (key, value) →
        ∃ found, Regex.compile pattern ignoreCase = .ok found

variable {switches : Switches} {reading : Reading}

theorem fault_of_run (h : reading.Compiles) {fault : Fault}
    (hrun : reading.run switches = .error fault) :
    fault = .keyIsNoText ∨ fault = .integerTooLong := by
  cases reading with
  | shape entries =>
    have hshape : readShape entries = .error fault := Fallible.map_eq_error_iff.1 hrun
    exact .inr (eq_of_checkWritable_error (Fallible.map_eq_error_iff.1 hshape))
  | comparison key value =>
    rcases fault_of_scalar (Fallible.map_eq_error_iff.1 hrun) with
      htexts | ⟨pattern, ignoreCase, hpart, herror⟩
    · exact fault_of_texts htexts
    · obtain ⟨found, hfound⟩ := h pattern ignoreCase hpart
      rw [hfound] at herror
      cases herror

/-- A reading succeeds exactly if the texts that are read are there and can be written. -/
theorem run_eq_ok_iff (h : reading.Compiles) : reading.run switches = .ok () ↔
    ¬reading.LacksText ∧ ∀ n ∈ reading.integers, isWritable n = true := by
  cases reading with
  | shape entries =>
    have hpresent : ¬(shape entries).LacksText := id
    rw [run, Fallible.outcome_eq_ok_iff, and_iff_right hpresent]
    constructor
    · rintro ⟨isArray, hshape⟩
      exact (readShape_eq_ok_iff.1 hshape).1
    · exact fun hall => ⟨_, readShape_eq_ok_iff.2 ⟨hall, rfl⟩⟩
  | comparison key value =>
    show Fallible.outcome (scalar switches key value) = .ok () ↔ ¬IsNoText (key, value) ∧ _
    rw [Fallible.outcome_eq_ok_iff, integers, ← exists_texts_iff]
    constructor
    · rintro ⟨c, hc⟩
      exact exists_texts_of_scalar hc
    · rintro ⟨read, hread⟩
      cases hresult : scalar switches key value with
      | ok c => exact ⟨c, rfl⟩
      | error fault =>
        rcases fault_of_scalar hresult with htexts | ⟨pattern, ignoreCase, hpart, herror⟩
        · rw [hread] at htexts
          cases htexts
        · obtain ⟨found, hfound⟩ := h pattern ignoreCase hpart
          rw [hfound] at herror
          cases herror

end Reading

mutual

def readingsAt (key : QueryKey) : QueryValue → List Reading
  | .nested entries =>
    .shape entries ::
      if isArrayShaped entries then [.comparison key (.nested entries)] else readings entries
  | value => [.comparison key value]

/-- The readings of a query, one after the other. -/
def readings : Query → List Reading
  | [] => []
  | (key, value) :: entries => readingsAt key value ++ readings entries

end

mutual

theorem outcome_contribution (switches : Switches) (key : QueryKey) (value : QueryValue) :
    Fallible.outcome (contribution switches key value) =
      forM (readingsAt key value) (Reading.run switches) := by
  have hone : ∀ v : QueryValue, Fallible.outcome (scalar switches key v) =
      forM [Reading.comparison key v] (Reading.run switches) := by
    intro v
    rw [List.forM_cons, List.forM_nil]
    exact (bind_pure_unit).symm
  cases value with
  | nested entries =>
    rw [contribution, readingsAt, List.forM_cons]
    show _ = (Fallible.outcome (readShape entries)).bind _
    cases hshape : readShape entries with
    | error fault => rfl
    | ok isArray =>
      obtain ⟨-, rfl⟩ := readShape_eq_ok_iff.1 hshape
      show Fallible.outcome (if isArrayShaped entries then _ else _) =
        forM (if isArrayShaped entries then _ else _) _
      split
      · exact hone _
      · rw [Fallible.outcome_map, outcome_contributions switches entries]
  | null | bool | int | float | text | list | tuple => exact hone _

/-- A query is read, or not, as its readings succeed, one after the other. -/
theorem outcome_contributions (switches : Switches) (entries : List (QueryKey × QueryValue)) :
    Fallible.outcome (contributions switches entries) =
      forM (readings entries) (Reading.run switches) := by
  cases entries with
  | nil => rfl
  | cons entry entries =>
    obtain ⟨key, value⟩ := entry
    rw [contributions, readings, List.forM_append, ← outcome_contribution switches key value,
      ← outcome_contributions switches entries]
    cases contribution switches key value with
    | error fault => rfl
    | ok first => cases contributions switches entries <;> rfl

end

theorem outcome_criteria (switches : Switches) (ignored : List String) (query : Query) :
    Fallible.outcome (criteria switches ignored query) =
      forM (query.unignored ignored).readings (Reading.run switches) := by
  rw [criteria, filtered, Fallible.outcome_map, Fallible.outcome_map]
  exact outcome_contributions switches (query.unignored ignored)

end Query

namespace Selection

theorem ofQuery_eq {c : Config} {query : Query} {s : Selection} {notices : List Notice}
    (h : ofQuery c query = .ok (s, notices)) :
    (∃ dropped, query.criteria c.switches c.ignoredFields = .ok (s.criteria, dropped)) ∧
      (∀ n ∈ Options.integers c.keywords query, isWritable n = true) ∧
      s.options = (Options.read c.keywords c.maxLimit query).1 ∧
      s.query = query ∧ s.config = c := by
  obtain ⟨⟨criteria, dropped⟩, hcriteria, h⟩ := Fallible.bind_eq_ok_iff.1 h
  obtain ⟨found, hfound, h⟩ := Fallible.map_eq_ok_iff.1 h
  obtain ⟨rfl, -⟩ := Prod.mk.inj h
  obtain ⟨hwritable, rfl⟩ := Options.ofQuery_eq_ok_iff.1 hfound
  exact ⟨⟨dropped, hcriteria⟩, hwritable, rfl, rfl, rfl⟩

/-- A selection is made of criteria and of options. -/
theorem exists_ofQuery_iff {c : Config} {query : Query} :
    (∃ found, ofQuery c query = .ok found) ↔
      Fallible.outcome (query.criteria c.switches c.ignoredFields) = .ok () ∧
        ∀ n ∈ Options.integers c.keywords query, isWritable n = true := by
  rw [Fallible.outcome_eq_ok_iff]
  constructor
  · rintro ⟨found, h⟩
    obtain ⟨criteria, hcriteria, h⟩ := Fallible.bind_eq_ok_iff.1 h
    obtain ⟨options, hoptions, -⟩ := Fallible.map_eq_ok_iff.1 h
    exact ⟨⟨criteria, hcriteria⟩, (Options.ofQuery_eq_ok_iff.1 hoptions).1⟩
  · rintro ⟨⟨criteria, hcriteria⟩, hwritable⟩
    have hoptions : Options.ofQuery c.keywords c.maxLimit query = .ok _ :=
      Options.ofQuery_eq_ok_iff.2 ⟨hwritable, rfl⟩
    exact ⟨_, Fallible.bind_eq_ok_iff.2 ⟨criteria, hcriteria,
      Fallible.map_eq_ok_iff.2 ⟨_, hoptions, rfl⟩⟩⟩

theorem run_of_ofQuery {c : Config} {query : Query} {found : Selection × List Notice}
    (h : ofQuery c query = .ok found) :
    ∀ reading ∈ (query.unignored c.ignoredFields).readings, reading.run c.switches = .ok () := by
  have hcriteria := (exists_ofQuery_iff.1 ⟨found, h⟩).1
  rwa [Query.outcome_criteria, Fallible.forM_eq_ok_iff] at hcriteria

theorem fault_of_ofQuery {c : Config} {query : Query} {fault : Fault}
    (h : ofQuery c query = .error fault) :
    Fallible.outcome (query.criteria c.switches c.ignoredFields) = .error fault ∨
      fault = .integerTooLong := by
  rw [ofQuery] at h
  cases hcriteria : query.criteria c.switches c.ignoredFields with
  | error other =>
    rw [hcriteria] at h
    obtain rfl := Except.error.inj h
    exact .inl rfl
  | ok found =>
    rw [hcriteria] at h
    have hoptions := Fallible.map_eq_error_iff.1 h
    exact .inr (eq_of_checkWritable_error (Fallible.map_eq_error_iff.1 hoptions))

/-- Provided that the patterns in the query can be compiled or are refused as mistakes, a
query makes a selection exactly if no integer key that is read, at any depth, is without a value,
and all integers in the texts that are read for the criteria and the options can be written. -/
theorem ofQuery_succeeds_iff (c : Config) (query : Query)
    (hregex : ∀ reading ∈ (query.unignored c.ignoredFields).readings, reading.Compiles) :
    ((∃ found, ofQuery c query = .ok found) ↔
      (∀ reading ∈ (query.unignored c.ignoredFields).readings,
        ¬reading.LacksText ∧ ∀ n ∈ reading.integers, isWritable n = true) ∧
      ∀ n ∈ Options.integers c.keywords query, isWritable n = true) ∧
    ∀ fault, ofQuery c query = .error fault → fault = .keyIsNoText ∨ fault = .integerTooLong := by
  constructor
  · rw [exists_ofQuery_iff, Query.outcome_criteria, Fallible.forM_eq_ok_iff]
    refine and_congr_left' (forall₂_congr fun reading hreading => ?_)
    exact Query.Reading.run_eq_ok_iff (hregex reading hreading)
  · intro fault hfault
    rcases fault_of_ofQuery hfault with hcriteria | hlong
    · rw [Query.outcome_criteria] at hcriteria
      obtain ⟨reading, hreading, hrun⟩ := Fallible.exists_of_forM_error hcriteria
      exact Query.Reading.fault_of_run (hregex reading hreading) hrun
    · exact .inr hlong

/-- An integer key with a value, and a text key without one, below a nested mapping. -/
theorem ofQuery_succeeds_mixed_keys : ∃ found, ofQuery {}
    [(.name "a", .nested [(.index 1, .text "5"), (.name "b", .null)]), (.name "c", .text "")] =
      .ok found := by
  have hreadings : (Query.unignored ({} : Config).ignoredFields
      [(.name "a", .nested [(.index 1, .text "5"), (.name "b", .null)]),
        (.name "c", .text "")]).readings =
      [.shape [(.index 1, .text "5"), (.name "b", .null)], .comparison (.index 1) (.text "5"),
        .comparison (.name "b") .null, .comparison (.name "c") (.text "")] := rfl
  refine ((ofQuery_succeeds_iff {} _ ?_).1).2 ⟨?_, nofun⟩
  · have hplain : ∀ p : QueryKey × QueryValue, '/' ∉ Query.textOf p →
        (Query.Reading.comparison p.1 p.2).Compiles :=
      fun p hp pattern ignoreCase hpart => absurd (hpart.subset List.mem_cons_self) hp
    rw [hreadings]
    simp only [List.forall_mem_cons]
    exact ⟨trivial, hplain (_, _) (by decide), hplain (_, _) (by decide), hplain (_, _) (by decide),
      nofun⟩
  · rw [hreadings]
    simp only [List.forall_mem_cons]
    refine ⟨⟨id, by decide⟩, ⟨?_, by decide⟩, ⟨?_, by decide⟩, ⟨?_, by decide⟩, nofun⟩
    · exact fun h => absurd h.2 (by decide)
    · rintro ⟨⟨n, hkey⟩, -⟩
      cases hkey
    · rintro ⟨⟨n, hkey⟩, -⟩
      cases hkey

/-- An integer key is refused without a value, and with one if it has too many digits. -/
theorem integer_keys_refused :
    (¬∃ found, ofQuery {} [(.name "a", .nested [(.index 1, .text "")])] = .ok found) ∧
      ¬∃ found, ofQuery {}
        [(.name "a", .nested [(.index (10 ^ Numeral.maxDigits), .text "5")])] = .ok found := by
  constructor
  · rintro ⟨found, h⟩
    have hrun : (Query.Reading.comparison (.index 1) (.text "")).run {} = .ok () :=
      run_of_ofQuery h _ (List.mem_cons_of_mem _ List.mem_cons_self)
    cases hrun
  · have hlong : ¬isWritable (10 ^ Numeral.maxDigits) = true := by
      rw [isWritable_iff, Int.natAbs_pow]
      generalize Numeral.maxDigits = digits
      exact Nat.lt_irrefl (10 ^ digits)
    generalize (10 ^ Numeral.maxDigits : Int) = n at hlong ⊢
    rintro ⟨found, h⟩
    have hrun : (Query.Reading.shape [(.index n, .text "5")]).run {} = .ok () :=
      run_of_ofQuery h _ List.mem_cons_self
    obtain ⟨isArray, hread⟩ := Fallible.outcome_eq_ok_iff.1 hrun
    exact hlong ((Query.readShape_eq_ok_iff.1 hread).1 n List.mem_cons_self)

end Selection
end QueryCriteria
