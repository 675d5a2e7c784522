import QueryCriteria.Proofs.Comparison
import QueryCriteria.Proofs.Expression
import QueryCriteria.Proofs.Selection
import QueryCriteria.Proofs.TypedLiteral

/-!
Several comparisons of one field to integers.  The first equals sign of a parameter ends its
name, so the two spellings of a comparison have different names, and parameters with one name
are collapsed into one text before they are read.  A group of one parameter gives its
operator an integer; a larger group gives the operator of its first parameter the rest of
the joined text.  The last parameter with an operator therefore wins exactly where the last
group that writes the operator is a single parameter with the same integer.
-/
namespace QueryCriteria

/-- A parameter that compares a field to an integer. -/
structure RangeParameter where
  sign : OrderSign
  /-- Whether the sign stands in the value, after an equals sign. -/
  inValue : Bool
  literal : IntegerLiteral

namespace RangeParameter

/-- The text of a parameter as it stands in a query string. -/
def text (field : List Char) (p : RangeParameter) : List Char :=
  field ++ ((if p.inValue then ['='] else []) ++ (p.sign.text ++ p.literal.text))

/-- What stands before the first equals sign. -/
def name (field : List Char) (p : RangeParameter) : List Char :=
  match p.inValue, p.sign with
  | true, _ => field
  | false, .more => field ++ '>' :: p.literal.text
  | false, .atLeast => field ++ ['>']
  | false, .less => field ++ '<' :: p.literal.text
  | false, .atMost => field ++ ['<']

/-- What stands after the first equals sign. -/
def value (p : RangeParameter) : List Char :=
  match p.inValue, p.sign with
  | true, sign => sign.text ++ p.literal.text
  | false, .more | false, .less => []
  | false, .atLeast | false, .atMost => p.literal.text

/-- Parameters with one name, the first of them by itself, in the order in which the names
are first seen. -/
def groups (field : List Char) (ps : List RangeParameter) :
    List (RangeParameter × List RangeParameter) :=
  (Flat.firstSeen (ps.map (name field))).filterMap fun key =>
    match ps.filter fun p => p.name field = key with
    | [] => none
    | p :: rest => some (p, rest)

/-- What the other parameters of a group add to the operand of the first one. -/
def excess (p : RangeParameter) : List RangeParameter → List Char
  | [] => []
  | next :: rest =>
    let others := ',' :: Text.joinWith ',' ((next :: rest).map value)
    if p.value = [] then '=' :: others else others

/-- The operand of a group: an integer if there is nothing but a literal that can be read. -/
def outcome (group : RangeParameter × List RangeParameter) : Value :=
  if group.2.isEmpty && group.1.literal.isShort then .int group.1.literal.value
  else .str (String.ofList (group.1.literal.text ++ excess group.1 group.2))

def entry (group : RangeParameter × List RangeParameter) : Key × Value :=
  (.comparison group.1.sign.operator, outcome group)

/-! ### Characters -/

/-- The characters that parameters consist of. -/
def isPlain (c : Char) : Bool := Form.isUnreserved c || c == '>' || c == '<' || c == '='

theorem isPlain_of_isUnreserved {c : Char} (h : Form.isUnreserved c = true) : isPlain c = true := by
  rw [isPlain, h]
  rfl

theorem isPlain_of_isAlphanum {c : Char} (h : c.isAlphanum = true) : isPlain c = true := by
  refine isPlain_of_isUnreserved ?_
  rw [Form.isUnreserved, h]
  rfl

theorem isPlain_lt {c : Char} (h : isPlain c = true) : c.toNat < 0x80 := by
  simp only [isPlain, Bool.or_eq_true, beq_iff_eq] at h
  rcases h with ((h | rfl) | rfl) | rfl
  · exact Form.isUnreserved_lt h
  all_goals decide

theorem not_mem_of_plain {cs : List Char} (h : ∀ c ∈ cs, isPlain c = true) {d : Char}
    (hd : isPlain d = false) : d ∉ cs := by
  intro hm
  rw [h d hm] at hd
  cases hd

theorem decode_plain {cs : List Char} (h : ∀ c ∈ cs, isPlain c = true) : Form.decode cs = cs := by
  refine Form.decode_ascii fun c hc => ⟨isPlain_lt (h c hc), ?_, ?_⟩
  · rintro rfl
    exact absurd (h '+' hc) (by decide)
  · rintro rfl
    exact absurd (h '%' hc) (by decide)

theorem plain_literal (n : IntegerLiteral) : ∀ c ∈ n.text, isPlain c = true := by
  intro c hc
  rcases IntegerLiteral.mem_text hc with rfl | hd
  · decide
  · refine isPlain_of_isAlphanum ?_
    rw [Char.isAlphanum, hd, Bool.or_true]

theorem plain_sign (sign : OrderSign) : ∀ c ∈ sign.text, isPlain c = true := by
  have hall : sign.text.all isPlain = true := by
    cases sign <;> decide
  exact List.all_eq_true.1 hall

theorem plain_value (p : RangeParameter) : ∀ c ∈ p.value, isPlain c = true := by
  obtain ⟨sign, inValue, literal⟩ := p
  intro c hc
  cases inValue with
  | true =>
    rcases List.mem_append.1 hc with hc | hc
    · exact plain_sign sign c hc
    · exact plain_literal literal c hc
  | false =>
    cases sign with
    | more => cases hc
    | atLeast => exact plain_literal literal c hc
    | less => cases hc
    | atMost => exact plain_literal literal c hc

section Field

variable {field : List Char}

theorem plain_name (hf : ∀ c ∈ field, c.isAlpha = true) (p : RangeParameter) :
    ∀ c ∈ p.name field, isPlain c = true ∧ c ≠ '=' := by
  have hfield : ∀ c ∈ field, isPlain c = true ∧ c ≠ '=' := by
    intro c hc
    refine ⟨isPlain_of_isAlphanum ?_, ?_⟩
    · rw [Char.isAlphanum, hf c hc, Bool.true_or]
    · rintro rfl
      exact absurd (hf '=' hc) (by decide)
  have hliteral : ∀ c ∈ p.literal.text, isPlain c = true ∧ c ≠ '=' := by
    intro c hc
    refine ⟨plain_literal p.literal c hc, ?_⟩
    rintro rfl
    exact p.literal.not_mem_text (by decide) (by decide) hc
  have happend : ∀ sign cs, isPlain sign = true → sign ≠ '=' →
      (∀ c ∈ cs, isPlain c = true ∧ c ≠ '=') →
      ∀ c ∈ field ++ sign :: cs, isPlain c = true ∧ c ≠ '=' := by
    intro sign cs hplain hne hcs c hc
    rcases List.mem_append.1 hc with hc | hc
    · exact hfield c hc
    · rcases List.mem_cons.1 hc with rfl | hc
      · exact ⟨hplain, hne⟩
      · exact hcs c hc
  unfold name
  split
  · exact hfield
  · exact happend '>' _ (by decide) (by decide) hliteral
  · exact happend '>' [] (by decide) (by decide) (by simp)
  · exact happend '<' _ (by decide) (by decide) hliteral
  · exact happend '<' [] (by decide) (by decide) (by simp)

/-! ### Reading one parameter -/

/-- Name and value make up the parameter. -/
theorem parameterText_name (p : RangeParameter) :
    Comparison.parameterText (p.name field) p.value = p.text field := by
  obtain ⟨sign, inValue, literal⟩ := p
  have hne := literal.text_ne_nil
  cases inValue with
  | true =>
    have hvalue : sign.text ++ literal.text ≠ [] := by simp [hne]
    exact if_neg hvalue
  | false =>
    cases sign with
    | more => exact if_pos rfl
    | less => exact if_pos rfl
    | atLeast =>
      refine (if_neg hne).trans ?_
      show (field ++ ['>']) ++ '=' :: literal.text = _
      rw [List.append_assoc]
      rfl
    | atMost =>
      refine (if_neg hne).trans ?_
      show (field ++ ['<']) ++ '=' :: literal.text = _
      rw [List.append_assoc]
      rfl

theorem readPair_text (hf : ∀ c ∈ field, c.isAlpha = true) (p : RangeParameter) :
    Form.readPair (p.text field) = (p.name field, p.value) := by
  have hname := decode_plain fun c hc => (plain_name hf p c hc).1
  have hvalue := decode_plain (plain_value p)
  have hequals : '=' ∉ p.name field := fun hm => (plain_name hf p '=' hm).2 rfl
  rw [← parameterText_name, Comparison.parameterText]
  split
  · next hnil => rw [Form.readPair_name hequals, hname, hnil]
  · rw [Form.readPair, Text.cutAt_append hequals]
    show (Form.decode (p.name field), Form.decode p.value) = _
    rw [hname, hvalue]

/-- The first parameter of a group stays as it is, and the others follow it. -/
theorem parameterText_group (p : RangeParameter) (rest : List RangeParameter) :
    Comparison.parameterText (p.name field) (Text.joinWith ',' ((p :: rest).map value)) =
      p.text field ++ p.excess rest := by
  cases rest with
  | nil => exact (parameterText_name p).trans (List.append_nil _).symm
  | cons next rest =>
    have hjoin : Text.joinWith ',' ((p :: next :: rest).map value) =
        p.value ++ ',' :: Text.joinWith ',' ((next :: rest).map value) := rfl
    have htext : Comparison.parameterText (p.name field) p.value = p.text field :=
      parameterText_name p
    rw [hjoin, Comparison.parameterText, if_neg (by simp), excess, ← htext, Comparison.parameterText]
    split
    · next hnil =>
      rw [hnil]
      rfl
    · rw [List.append_assoc]
      rfl

/-! ### Reading a group -/

theorem newline_not_mem_joinWith (ps : List RangeParameter) :
    '\n' ∉ Text.joinWith ',' (ps.map value) := by
  intro hm
  rcases Text.mem_joinWith hm with h | ⟨piece, hp, hc⟩
  · exact absurd h (by decide)
  · obtain ⟨p, -, rfl⟩ := List.mem_map.1 hp
    exact not_mem_of_plain (plain_value p) (by decide) hc

/-- The operand of a group is typed as its outcome. -/
theorem coerce_operand (p : RangeParameter) (rest : List RangeParameter) :
    ({} : Switches).coerce (String.ofList (p.literal.text ++ p.excess rest)) =
      .ok (outcome (p, rest)) := by
  cases rest with
  | nil =>
    rw [excess, outcome, List.append_nil]
    cases hshort : p.literal.isShort with
    | true => exact Switches.coerce_integer hshort
    | false =>
      show _ = Except.ok (Value.str (String.ofList (p.literal.text ++ [])))
      rw [List.append_nil]
      exact Switches.coerce_long hshort
  | cons next rest =>
    have hjoin := newline_not_mem_joinWith (next :: rest)
    show _ = Except.ok (Value.str (String.ofList (p.literal.text ++ p.excess (next :: rest))))
    rw [excess]
    split
    · refine Switches.coerce_append (.inr rfl) ?_
      rw [List.mem_cons, not_or]
      exact ⟨by decide, hjoin⟩
    · exact Switches.coerce_append (.inl rfl) hjoin

theorem read?_text (hfield : Expression.IsField field) (p : RangeParameter) (more : List Char) :
    Expression.read? (p.text field ++ more) =
      some { field, test := some (.order p.sign.operator, p.literal.text ++ more) } := by
  have hne : p.literal.text ++ more ≠ [] := by simp [p.literal.text_ne_nil]
  have hhead : ∀ c ∈ (p.literal.text ++ more).head?, c ≠ '=' := by
    rintro c hc rfl
    exact absurd (p.literal.head_append more '=' hc) (by decide)
  rw [text, List.append_assoc]
  refine Expression.read?_test hfield ?_ ?_
  · obtain ⟨sign, inValue, literal⟩ := p
    intro c hc
    cases inValue <;> cases sign <;> · rw [← Option.some.inj hc]; decide
  · have hsign := Expression.readTest?_order p.sign hne hhead
    have hequal := Expression.readTest?_equal_order p.sign hne hhead
    cases p.inValue with
    | true =>
      show Expression.readTest? ('=' :: ((p.sign.text ++ p.literal.text) ++ more)) = _
      rw [List.append_assoc, hequal]
    | false =>
      show Expression.readTest? ((p.sign.text ++ p.literal.text) ++ more) = _
      rw [List.append_assoc, hsign]

/-- A group is read as one comparison by the sign of its first parameter. -/
theorem parse_group (hfield : Expression.IsField field) (p : RangeParameter)
    (rest : List RangeParameter) :
    Comparison.parse {} (String.ofList (p.name field))
      (String.ofList (Text.joinWith ',' ((p :: rest).map value))) =
      .ok (some { field := String.ofList field, value := .map [entry (p, rest)] }) := by
  have hmark : ∀ c ∈ (p.literal.text ++ p.excess rest).head?, c ≠ '!' := by
    rintro c hc rfl
    exact absurd (p.literal.head_append _ '!' hc) (by decide)
  have htoken : ({} : Switches).token (String.ofList (p.literal.text ++ p.excess rest)) =
      .ok { negated := false, value := outcome (p, rest) } := by
    rw [Switches.token_unmarked hmark, coerce_operand]
    rfl
  refine Comparison.parse_of_test ?_ (Comparison.ofTest_order htoken p.sign.operator)
  rw [parameterText_group, read?_text hfield]

/-! ### Reading all groups -/

theorem plain_text (hf : ∀ c ∈ field, c.isAlpha = true) (p : RangeParameter) :
    ∀ c ∈ p.text field, isPlain c = true := by
  have hname := plain_name hf p
  intro c hc
  rw [← parameterText_name, Comparison.parameterText] at hc
  split at hc
  · exact (hname c hc).1
  · rcases List.mem_append.1 hc with hc | hc
    · exact (hname c hc).1
    · rcases List.mem_cons.1 hc with rfl | hc
      · decide
      · exact plain_value p c hc

/-- The parameters one after the other. -/
def rangeText (field : List Char) (ps : List RangeParameter) : List Char :=
  Text.joinWith '&' (ps.map (text field))

theorem exists_group {ps : List RangeParameter} {key : List Char}
    (h : key ∈ ps.map (name field)) :
    ∃ p rest, (ps.filter fun p => p.name field = key) = p :: rest ∧ p ∈ ps ∧ p.name field = key := by
  obtain ⟨q, hq, hkey⟩ := List.mem_map.1 h
  have hmem : q ∈ ps.filter fun p => p.name field = key :=
    List.mem_filter.2 ⟨hq, decide_eq_true hkey⟩
  cases hfilter : ps.filter fun p => p.name field = key with
  | nil =>
    rw [hfilter] at hmem
    cases hmem
  | cons p rest =>
    have hp : p ∈ ps.filter fun p => p.name field = key := by
      rw [hfilter]
      exact List.mem_cons_self
    rw [List.mem_filter, decide_eq_true_eq] at hp
    exact ⟨p, rest, rfl, hp.1, hp.2⟩

theorem grouped_eq (ps : List RangeParameter) :
    Flat.grouped (ps.map fun p => (p.name field, p.value)) =
      (groups field ps).map fun group =>
        (Flat.nameOf (group.1.name field), Flat.held ((group.1 :: group.2).map value)) := by
  have hkeys : (ps.map fun p => (p.name field, p.value)).map (·.1) = ps.map (name field) := by
    rw [List.map_map]
    rfl
  rw [Flat.grouped, hkeys, groups, List.map_filterMap, ← List.filterMap_eq_map]
  refine List.filterMap_congr fun key hkey => ?_
  obtain ⟨p, rest, hfilter, -, hname⟩ := exists_group (Flat.mem_firstSeen.1 hkey)
  have hvalues : Flat.valuesOf key (ps.map fun p => (p.name field, p.value)) =
      (p :: rest).map value := by
    rw [Flat.valuesOf, List.filter_map, List.map_map, ← hfilter]
    rfl
  show some (Flat.nameOf key, Flat.held (Flat.valuesOf key _)) = _
  rw [hfilter, hvalues, ← hname]
  rfl

theorem mem_groups {ps : List RangeParameter} {group : RangeParameter × List RangeParameter}
    (h : group ∈ groups field ps) : group.1 ∈ ps := by
  obtain ⟨key, hkey, hgroup⟩ := List.mem_filterMap.1 h
  obtain ⟨p, rest, hfilter, hp, -⟩ := exists_group (Flat.mem_firstSeen.1 hkey)
  rw [hfilter] at hgroup
  rw [← Option.some.inj hgroup]
  exact hp

theorem groups_ne_nil {ps : List RangeParameter} (h : ps ≠ []) : groups field ps ≠ [] := by
  obtain ⟨p, rest, rfl⟩ := List.exists_cons_of_ne_nil h
  have hkey : p.name field ∈ Flat.firstSeen ((p :: rest).map (name field)) :=
    Flat.mem_firstSeen.2 List.mem_cons_self
  obtain ⟨q, others, hfilter, -, -⟩ := exists_group (Flat.mem_firstSeen.1 hkey)
  refine List.ne_nil_of_mem (List.mem_filterMap.2 ⟨p.name field, hkey, ?_⟩ : (q, others) ∈ _)
  rw [hfilter]

theorem parse_rangeText (hf : ∀ c ∈ field, c.isAlpha = true) (ps : List RangeParameter) :
    Flat.parse (rangeText field ps) = (groups field ps).map fun group =>
      (Flat.nameOf (group.1.name field), Flat.held ((group.1 :: group.2).map value)) := by
  have hne : ∀ s ∈ ps.map (text field), s ≠ [] := by
    refine List.forall_mem_map.2 fun p _ => ?_
    simp [text, p.literal.text_ne_nil]
  have hampersand : ∀ s ∈ ps.map (text field), '&' ∉ s :=
    List.forall_mem_map.2 fun p _ => not_mem_of_plain (plain_text hf p) (by decide)
  have hquestion : ∀ s ∈ ps.map (text field), '?' ∉ s :=
    List.forall_mem_map.2 fun p _ => not_mem_of_plain (plain_text hf p) (by decide)
  have hpairs : (ps.map (text field)).map Form.readPair = ps.map fun p => (p.name field, p.value) := by
    rw [List.map_map]
    exact List.map_congr_left fun p _ => readPair_text hf p
  rw [rangeText, Flat.parse_joinWith hne hampersand hquestion, hpairs, grouped_eq]

theorem name_not_keyword (hfree : String.ofList field ∉ ({} : Keywords).names)
    (p : RangeParameter) : String.ofList (p.name field) ∉ ({} : Keywords).names := by
  unfold name
  split
  · exact hfree
  · exact Selection.not_keyword_of_special (List.mem_append_right _ List.mem_cons_self) (by decide)
  · exact Selection.not_keyword_of_special (List.mem_append_right _ List.mem_cons_self) (by decide)
  · exact Selection.not_keyword_of_special (List.mem_append_right _ List.mem_cons_self) (by decide)
  · exact Selection.not_keyword_of_special (List.mem_append_right _ List.mem_cons_self) (by decide)

/-- The groups are written one after the other into one mapping. -/
theorem ofText_rangeText (hne : field ≠ []) (hf : ∀ c ∈ field, c.isAlpha = true)
    (hfree : String.ofList field ∉ ({} : Keywords).names) {ps : List RangeParameter}
    (hps : ps ≠ []) :
    Selection.ofText {} (String.ofList (rangeText field ps)) =
      .ok ({ criteria := [(.field (String.ofList field),
               .map (Entries.ofList Key.label ((groups field ps).map entry)))]
             options := {}, query := Flat.parse (rangeText field ps), config := {} }, []) := by
  have hselection := Selection.ofText_of_comparisons (parse_rangeText hf ps)
    (fun group _ => parse_group (Expression.isField_of_letters hne hf) group.1 group.2)
    (fun group _ => name_not_keyword hfree group.1) (fun _ _ => hfree)
  have hentries : (groups field ps).map entry ≠ [] := by
    rw [ne_eq, List.map_eq_nil_iff]
    exact groups_ne_nil hps
  rw [hselection, ← Criteria.ofValues_entries (.field (String.ofList field)) hentries, List.map_map]
  rfl

/-! ### Which parameter wins -/

/-- The last parameter with a sign. -/
def lastWith (sign : OrderSign) (ps : List RangeParameter) : Option RangeParameter :=
  (ps.filter fun p => p.sign = sign).getLast?

/-- The last group that writes the operator of a sign. -/
def writer (field : List Char) (sign : OrderSign) (ps : List RangeParameter) :
    Option (RangeParameter × List RangeParameter) :=
  ((groups field ps).filter fun group => group.1.sign = sign).getLast?

/-- The operators that occur, each with the integer of the last parameter that has it. -/
structure Accumulates (ps : List RangeParameter) (operators : List (Key × Value)) : Prop where
  distinct : (Entries.labels Key.label operators).Nodup
  ordered : ∀ e ∈ operators, ∃ sign : OrderSign, e.1 = .comparison sign.operator
  last : ∀ sign : OrderSign, Entries.get? Key.label (.comparison sign.operator) operators =
    (lastWith sign ps).map fun p => .int p.literal.value

/-- Each operator is written last by a parameter with a name of its own and with the integer
of the last parameter that has the operator. -/
def Settled (field : List Char) (ps : List RangeParameter) : Prop :=
  ∀ sign p, lastWith sign ps = some p →
    ∃ q, writer field sign ps = some (q, []) ∧ q.literal.isShort = true ∧
      q.literal.value = p.literal.value

theorem outcome_eq_int {group : RangeParameter × List RangeParameter} {n : Int} :
    outcome group = .int n ↔
      group.2 = [] ∧ group.1.literal.isShort = true ∧ group.1.literal.value = n := by
  rw [outcome]
  constructor
  · intro h
    split at h
    · next hc =>
      rw [Bool.and_eq_true, List.isEmpty_iff] at hc
      exact ⟨hc.1, hc.2, Value.int.inj h⟩
    · cases h
  · rintro ⟨hrest, hshort, hvalue⟩
    rw [if_pos (by rw [hrest, hshort]; rfl), hvalue]

theorem label_entry (group : RangeParameter × List RangeParameter) (sign : OrderSign) :
    (entry group).1.label = (Key.comparison sign.operator).label ↔ group.1.sign = sign := by
  constructor
  · intro h
    exact OrderSign.operator_injective (Operator.name_injective (Key.Label.text.inj h))
  · rintro rfl
    rfl

theorem get?_groups (sign : OrderSign) (ps : List RangeParameter) :
    Entries.get? Key.label (.comparison sign.operator)
      (Entries.ofList Key.label ((groups field ps).map entry)) =
      (writer field sign ps).map outcome := by
  have hfilter : ((groups field ps).map entry).filter
      (fun e => e.1.label = (Key.comparison sign.operator).label) =
      ((groups field ps).filter fun group => group.1.sign = sign).map entry := by
    rw [List.filter_map]
    refine congrArg (List.map entry) (List.filter_congr fun group _ => ?_)
    exact decide_eq_decide.2 (label_entry group sign)
  rw [Entries.get?_ofList, Entries.lastOf, hfilter, List.getLast?_map, Option.map_map]
  rfl

theorem writer_eq_none {sign : OrderSign} {ps : List RangeParameter}
    (h : lastWith sign ps = none) : writer field sign ps = none := by
  rw [lastWith, List.getLast?_eq_none_iff, List.filter_eq_nil_iff] at h
  rw [writer, List.getLast?_eq_none_iff, List.filter_eq_nil_iff]
  intro group hg
  exact h group.1 (mem_groups hg)

theorem accumulates_iff (ps : List RangeParameter) :
    Accumulates ps (Entries.ofList Key.label ((groups field ps).map entry)) ↔ Settled field ps := by
  constructor
  · intro h sign p hp
    have hlast := h.last sign
    rw [get?_groups, hp] at hlast
    obtain ⟨group, hwriter, houtcome⟩ := Option.map_eq_some_iff.1 hlast
    obtain ⟨hrest, hshort, hvalue⟩ := outcome_eq_int.1 houtcome
    refine ⟨group.1, ?_, hshort, hvalue⟩
    rw [hwriter, ← hrest]
  · intro h
    refine ⟨Entries.nodup_labels_ofList Key.label _, ?_, ?_⟩
    · intro e he
      obtain ⟨f, hf, hkey⟩ := Entries.exists_of_mem_ofList Key.label he
      obtain ⟨group, -, rfl⟩ := List.mem_map.1 hf
      exact ⟨group.1.sign, hkey.symm⟩
    · intro sign
      rw [get?_groups]
      cases hp : lastWith sign ps with
      | none => rw [writer_eq_none hp]; rfl
      | some p =>
        obtain ⟨q, hwriter, hshort, hvalue⟩ := h sign p hp
        rw [hwriter]
        exact congrArg some (outcome_eq_int.2 ⟨rfl, hshort, hvalue⟩)

/-- Parameters for one field give one mapping of operators, in which the last parameter with
each operator wins exactly if the parameters are settled. -/
theorem last_bound_wins_iff (hne : field ≠ []) (hf : ∀ c ∈ field, c.isAlpha = true)
    (hfree : String.ofList field ∉ ({} : Keywords).names) {ps : List RangeParameter}
    (hps : ps ≠ []) :
    ∃ operators, Selection.ofText {} (String.ofList (rangeText field ps)) =
      .ok ({ criteria := [(.field (String.ofList field), .map operators)], options := {},
             query := Flat.parse (rangeText field ps), config := {} }, []) ∧
      (Accumulates ps operators ↔ Settled field ps) :=
  ⟨_, ofText_rangeText hne hf hfree hps, accumulates_iff ps⟩

/-- The parameters of `a>=1&a<9&a=>=5`. -/
def mixedBounds : List RangeParameter :=
  [⟨.atLeast, false, .ofInt 1⟩, ⟨.less, false, .ofInt 9⟩, ⟨.atLeast, true, .ofInt 5⟩]

theorem last_bound_wins_mixed :
    String.ofList (rangeText ['a'] mixedBounds) = "a>=1&a<9&a=>=5" ∧
    ∃ operators, Selection.ofText {} (String.ofList (rangeText ['a'] mixedBounds)) =
      .ok ({ criteria := [(.field (String.ofList ['a']), .map operators)], options := {},
             query := Flat.parse (rangeText ['a'] mixedBounds), config := {} }, []) ∧
      Accumulates mixedBounds operators := by
  refine ⟨by decide, ?_⟩
  have hne : mixedBounds ≠ [] := List.cons_ne_nil _ _
  have hletters : ∀ c ∈ ['a'], c.isAlpha = true := List.all_eq_true.1 rfl
  obtain ⟨operators, hselection, hiff⟩ :=
    last_bound_wins_iff (List.cons_ne_nil 'a' []) hletters (by decide) hne
  refine ⟨operators, hselection, hiff.2 ?_⟩
  intro sign p hp
  cases sign with
  | more => cases hp
  | atLeast =>
    refine ⟨⟨.atLeast, true, .ofInt 5⟩, rfl, rfl, ?_⟩
    exact congrArg (fun p => p.literal.value) (Option.some.inj hp)
  | less =>
    refine ⟨⟨.less, false, .ofInt 9⟩, rfl, rfl, ?_⟩
    exact congrArg (fun p => p.literal.value) (Option.some.inj hp)
  | atMost => cases hp

/-- The parameters of `a>=1&a>=5`, which have one name. -/
def repeatedBounds : List RangeParameter :=
  [⟨.atLeast, false, .ofInt 1⟩, ⟨.atLeast, false, .ofInt 5⟩]

theorem repeated_bound_joined :
    String.ofList (rangeText ['a'] repeatedBounds) = "a>=1&a>=5" ∧
    ∃ operators, Selection.ofText {} (String.ofList (rangeText ['a'] repeatedBounds)) =
      .ok ({ criteria := [(.field (String.ofList ['a']), .map operators)], options := {},
             query := Flat.parse (rangeText ['a'] repeatedBounds), config := {} }, []) ∧
      operators = [(.comparison .ge, .str "1,5")] ∧ ¬ Accumulates repeatedBounds operators := by
  refine ⟨by decide, ?_⟩
  have hne : repeatedBounds ≠ [] := List.cons_ne_nil _ _
  have hletters : ∀ c ∈ ['a'], c.isAlpha = true := List.all_eq_true.1 rfl
  refine ⟨_, ofText_rangeText (List.cons_ne_nil 'a' []) hletters (by decide) hne, rfl, ?_⟩
  intro h
  have hlast := h.last .atLeast
  cases hlast

end Field
end RangeParameter
end QueryCriteria
