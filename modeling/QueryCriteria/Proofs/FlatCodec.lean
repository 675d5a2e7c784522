import Mathlib.Data.List.Induction
import QueryCriteria.Codec.Flat
import QueryCriteria.Proofs.Entries
import QueryCriteria.Proofs.FormEncoding

/-!
The flat codec groups pairs by their names.  `grouped` says what that means without going
through the pairs one after the other: each name once, in the order in which the names are
first seen, with its one value or with the list of all its values in order.  Reading a
written query therefore gives the query back, but for lists of no or one text.
-/
namespace QueryCriteria
namespace Flat

/-- The names of a list in the order in which they are first seen. -/
def firstSeen : List (List Char) → List (List Char)
  | [] => []
  | key :: keys => key :: (firstSeen keys).filter (· ≠ key)

/-- The values that pairs give a name, in order. -/
def valuesOf (key : List Char) (pairs : List (List Char × List Char)) : List (List Char) :=
  (pairs.filter fun pair => pair.1 = key).map (·.2)

/-- One value stands by itself, any other number of them in a list. -/
def held : List (List Char) → QueryValue
  | [value] => .text (String.ofList value)
  | values => .list (values.map fun value => .text (String.ofList value))

def nameOf (key : List Char) : QueryKey := .name (String.ofList key)

def grouped (pairs : List (List Char × List Char)) : Query :=
  (firstSeen (pairs.map (·.1))).map fun key => (nameOf key, held (valuesOf key pairs))

theorem nameOf_injective (a b : List Char) (h : id (nameOf a) = id (nameOf b)) : a = b := by
  have hs : String.ofList a = String.ofList b := QueryKey.name.inj h
  rw [← String.toList_ofList (l := a), hs, String.toList_ofList]

theorem body_of_not_mem {text : List Char} (h : '?' ∉ text) : body text = text := by
  match text with
  | [] => rfl
  | c :: cs =>
    rw [body]
    rintro rest ⟨⟩
    exact h List.mem_cons_self

/-! ### Names in the order in which they are first seen -/

theorem mem_firstSeen {key : List Char} {keys : List (List Char)} :
    key ∈ firstSeen keys ↔ key ∈ keys := by
  induction keys with
  | nil => rfl
  | cons first keys ih =>
    rw [firstSeen, List.mem_cons, List.mem_filter, ih, List.mem_cons]
    by_cases h : key = first <;> simp [h]

theorem firstSeen_nodup (keys : List (List Char)) : (firstSeen keys).Nodup := by
  induction keys with
  | nil => exact List.nodup_nil
  | cons first keys ih =>
    rw [firstSeen, List.nodup_cons]
    refine ⟨?_, ih.filter _⟩
    intro h
    have := (List.mem_filter.1 h).2
    simp at this

theorem firstSeen_append (xs ys : List (List Char)) :
    firstSeen (xs ++ ys) = firstSeen xs ++ (firstSeen ys).filter (· ∉ xs) := by
  induction xs with
  | nil => simp [firstSeen]
  | cons x xs ih =>
    rw [List.cons_append, firstSeen, ih, firstSeen, List.filter_append, List.filter_filter,
      List.cons_append]
    congr 2
    refine List.filter_congr fun y _ => ?_
    by_cases h : y = x <;> simp [h]

theorem firstSeen_of_nodup {keys : List (List Char)} (h : keys.Nodup) : firstSeen keys = keys := by
  induction keys with
  | nil => rfl
  | cons key keys ih =>
    rw [List.nodup_cons] at h
    rw [firstSeen, ih h.2, List.filter_eq_self.2]
    intro other ho
    exact decide_eq_true fun e => h.1 (e ▸ ho)

/-! ### One more pair -/

theorem valuesOf_append (key : List Char) (ps qs : List (List Char × List Char)) :
    valuesOf key (ps ++ qs) = valuesOf key ps ++ valuesOf key qs := by
  rw [valuesOf, List.filter_append, List.map_append]
  rfl

theorem valuesOf_of_not_mem {key : List Char} {pairs : List (List Char × List Char)}
    (h : key ∉ pairs.map (·.1)) : valuesOf key pairs = [] := by
  rw [valuesOf, List.map_eq_nil_iff, List.filter_eq_nil_iff]
  intro pair hp he
  rw [decide_eq_true_eq] at he
  exact h (List.mem_map.2 ⟨pair, hp, he⟩)

theorem valuesOf_ne_nil {key : List Char} {pairs : List (List Char × List Char)}
    (h : key ∈ pairs.map (·.1)) : valuesOf key pairs ≠ [] := by
  obtain ⟨pair, hp, rfl⟩ := List.mem_map.1 h
  intro he
  rw [valuesOf, List.map_eq_nil_iff, List.filter_eq_nil_iff] at he
  exact he pair hp (decide_eq_true rfl)

/-- Values that are there become a list when one more comes. -/
theorem held_append {values : List (List Char)} (h : values ≠ []) (value : List Char) :
    held (values ++ [value]) =
      match held values with
      | .list items => .list (items ++ [.text (String.ofList value)])
      | first => .list [first, .text (String.ofList value)] := by
  match values with
  | [] => exact absurd rfl h
  | [_] => rfl
  | _ :: _ :: _ => simp [held]

theorem get?_grouped (key : List Char) (pairs : List (List Char × List Char)) :
    Query.get? (grouped pairs) (nameOf key) =
      if key ∈ pairs.map (·.1) then some (held (valuesOf key pairs)) else none := by
  have h := Entries.get?_map id nameOf_injective (fun k => held (valuesOf k pairs)) key
    (firstSeen (pairs.map (·.1)))
  simp only [mem_firstSeen] at h
  exact h

theorem valuesOf_concat_self (pairs : List (List Char × List Char)) (key value : List Char) :
    valuesOf key (pairs ++ [(key, value)]) = valuesOf key pairs ++ [value] := by
  rw [valuesOf_append]
  simp [valuesOf]

theorem valuesOf_concat_ne {key k : List Char} (h : k ≠ key)
    (pairs : List (List Char × List Char)) (value : List Char) :
    valuesOf k (pairs ++ [(key, value)]) = valuesOf k pairs := by
  have hone : k ∉ [(key, value)].map (·.1) := by simpa using h
  rw [valuesOf_append, valuesOf_of_not_mem hone, List.append_nil]

/-- A name that was seen keeps its place. -/
theorem firstSeen_concat_of_mem {keys : List (List Char)} {key : List Char} (h : key ∈ keys) :
    firstSeen (keys ++ [key]) = firstSeen keys := by
  have hnone : (firstSeen [key]).filter (· ∉ keys) = [] := by
    rw [List.filter_eq_nil_iff]
    intro k hk
    rw [mem_firstSeen, List.mem_singleton] at hk
    subst hk
    simpa using h
  rw [firstSeen_append, hnone, List.append_nil]

/-- A new name goes to the end. -/
theorem firstSeen_concat_of_not_mem {keys : List (List Char)} {key : List Char}
    (h : key ∉ keys) : firstSeen (keys ++ [key]) = firstSeen keys ++ [key] := by
  have hone : (firstSeen [key]).filter (· ∉ keys) = [key] := by
    rw [firstSeen_of_nodup (List.nodup_singleton key), List.filter_eq_self]
    intro k hk
    rw [List.mem_singleton] at hk
    subst hk
    simpa using h
  rw [firstSeen_append, hone]

theorem grouped_concat_of_mem {pairs : List (List Char × List Char)} {key : List Char}
    (h : key ∈ pairs.map (·.1)) (value : List Char) :
    grouped (pairs ++ [(key, value)]) =
      (grouped pairs).insert (nameOf key) (held (valuesOf key pairs ++ [value])) := by
  show _ = Entries.insert id (nameOf key) _ (grouped pairs)
  rw [grouped, grouped, Entries.insert_map id nameOf_injective (firstSeen_nodup _)
    (mem_firstSeen.2 h), List.map_append, List.map_singleton, firstSeen_concat_of_mem h]
  refine List.map_congr_left fun k _ => ?_
  by_cases hk : k = key
  · rw [if_pos hk, hk, valuesOf_concat_self]
  · rw [if_neg hk, valuesOf_concat_ne hk]

theorem grouped_concat_of_not_mem {pairs : List (List Char × List Char)} {key : List Char}
    (h : key ∉ pairs.map (·.1)) (value : List Char) :
    grouped (pairs ++ [(key, value)]) =
      (grouped pairs).insert (nameOf key) (.text (String.ofList value)) := by
  have hnew : id (nameOf key) ∉ Entries.labels id (grouped pairs) := by
    intro hm
    obtain ⟨entry, he, hn⟩ := List.mem_map.1 hm
    obtain ⟨k, hk, rfl⟩ := List.mem_map.1 he
    exact h (nameOf_injective k key hn ▸ mem_firstSeen.1 hk)
  have hkeys : (pairs ++ [(key, value)]).map (·.1) = pairs.map (·.1) ++ [key] := List.map_append
  show _ = Entries.insert id (nameOf key) _ (grouped pairs)
  rw [Entries.insert_of_not_mem id hnew, grouped, hkeys, firstSeen_concat_of_not_mem h,
    List.map_append, List.map_singleton, valuesOf_concat_self, valuesOf_of_not_mem h]
  refine congrArg (· ++ _) (List.map_congr_left fun k hk => ?_)
  have hne : k ≠ key := fun e => h (e ▸ mem_firstSeen.1 hk)
  rw [valuesOf_concat_ne hne]

/-- One step of reading keeps the grouping. -/
theorem add_grouped (pairs : List (List Char × List Char)) (key value : List Char) :
    add (grouped pairs) key value = grouped (pairs ++ [(key, value)]) := by
  have hget : Query.get? (grouped pairs) (.name (String.ofList key)) =
      if key ∈ pairs.map (·.1) then some (held (valuesOf key pairs)) else none :=
    get?_grouped key pairs
  rw [add, hget]
  by_cases h : key ∈ pairs.map (·.1)
  · rw [if_pos h, grouped_concat_of_mem h, held_append (valuesOf_ne_nil h)]
    cases held (valuesOf key pairs) <;> rfl
  · rw [if_neg h, grouped_concat_of_not_mem h]
    rfl

theorem ofPairs_eq_grouped (pairs : List (List Char × List Char)) :
    ofPairs pairs = grouped pairs := by
  induction pairs using List.reverseRecOn with
  | nil => rfl
  | append_singleton pairs pair ih =>
    rw [ofPairs, List.foldl_append, List.foldl_cons, List.foldl_nil, ← add_grouped, ← ih]
    rfl

/-- Where names are distinct, only one element has the name of an element. -/
theorem filter_name_of_nodup {α : Type} {name : α → List Char} {xs : List α}
    (h : (xs.map name).Nodup) {x : α} (hx : x ∈ xs) : xs.filter (fun y => name y = name x) = [x] := by
  induction xs with
  | nil => cases hx
  | cons y ys ih =>
    rw [List.map_cons, List.nodup_cons] at h
    rcases List.mem_cons.1 hx with rfl | hx
    · rw [List.filter_cons_of_pos (by simp), List.filter_eq_nil_iff.2]
      intro z hz he
      exact h.1 (List.mem_map.2 ⟨z, hz, of_decide_eq_true he⟩)
    · have hne : name y ≠ name x := fun e => h.1 (e ▸ List.mem_map_of_mem hx)
      rw [List.filter_cons_of_neg (by simpa using hne), ih h.2 hx]

/-- The values of names that are distinct stand by themselves. -/
theorem grouped_of_nodup {pairs : List (List Char × List Char)} (h : (pairs.map (·.1)).Nodup) :
    grouped pairs = pairs.map fun pair => (nameOf pair.1, held [pair.2]) := by
  rw [grouped, firstSeen_of_nodup h, List.map_map]
  refine List.map_congr_left fun pair hp => ?_
  show (nameOf pair.1, held (valuesOf pair.1 pairs)) = _
  rw [valuesOf, filter_name_of_nodup h hp]
  rfl

/-! ### Written queries -/

/-- A query that the flat codec can write: texts as keys, none of them twice, and texts or
lists of texts as values. -/
structure IsFlat (query : Query) : Prop where
  named : ∀ entry ∈ query, ∃ s, entry.1 = .name s
  texts : ∀ entry ∈ query, (∃ s, entry.2 = .text s) ∨
    ∃ items, entry.2 = .list items ∧ ∀ item ∈ items, ∃ s, item = .text s
  distinct : (Entries.labels id query).Nodup

/-- What is left of a value that is written and read: a list of one text is that text, and
nothing is left of an empty list. -/
def unwrapped : QueryValue → Option QueryValue
  | .list [] => none
  | .list [item] => some item
  | value => some value

def tidied (query : Query) : Query :=
  query.filterMap fun entry => (unwrapped entry.2).map fun value => (entry.1, value)

theorem firstSeen_replicate (key : List Char) (n : Nat) :
    firstSeen (List.replicate n key) = if n = 0 then [] else [key] := by
  induction n with
  | zero => rfl
  | succ n ih =>
    rw [List.replicate_succ, firstSeen, ih]
    split <;> simp

/-- The values of a new name, one after the other, make one entry, or none if there are no
values. -/
theorem grouped_block {key : List Char} {values : List (List Char)}
    {pairs : List (List Char × List Char)} (h : key ∉ pairs.map (·.1)) :
    grouped (values.map (fun value => (key, value)) ++ pairs) =
      (if values = [] then [] else [(nameOf key, held values)]) ++ grouped pairs := by
  have hkeys : (values.map fun value => (key, value)).map (·.1) =
      List.replicate values.length key := by
    rw [List.map_map]
    exact List.map_const' ..
  have hself : valuesOf key (values.map (fun value => (key, value)) ++ pairs) = values := by
    rw [valuesOf_append, valuesOf_of_not_mem h, List.append_nil, valuesOf, List.filter_eq_self.2]
    · rw [List.map_map]
      exact List.map_id values
    · intro pair hp
      obtain ⟨value, -, rfl⟩ := List.mem_map.1 hp
      exact decide_eq_true rfl
  have hother : ∀ k ∈ firstSeen (pairs.map (·.1)),
      valuesOf k (values.map (fun value => (key, value)) ++ pairs) = valuesOf k pairs := by
    intro k hk
    rw [valuesOf_append, valuesOf_of_not_mem, List.nil_append]
    intro hm
    rw [hkeys] at hm
    rw [List.eq_of_mem_replicate hm] at hk
    exact h (mem_firstSeen.1 hk)
  have hrest : (firstSeen (pairs.map (·.1))).filter (· ∉ List.replicate values.length key) =
      firstSeen (pairs.map (·.1)) := by
    rw [List.filter_eq_self]
    intro k hk
    refine decide_eq_true fun hm => ?_
    rw [List.eq_of_mem_replicate hm] at hk
    exact h (mem_firstSeen.1 hk)
  rw [grouped, List.map_append, hkeys, firstSeen_append, hrest, firstSeen_replicate,
    List.map_append, grouped]
  refine congrArg₂ (· ++ ·) ?_ (List.map_congr_left fun k hk => by rw [hother k hk])
  by_cases hv : values = []
  · subst hv
    rfl
  · rw [if_neg hv, if_neg (by simpa using hv), List.map_singleton, hself]

theorem map_text_display {items : List QueryValue} (h : ∀ item ∈ items, ∃ s, item = .text s) :
    (items.map QueryValue.display).map (fun value => QueryValue.text (String.ofList value)) =
      items := by
  rw [List.map_map]
  conv => rhs; rw [← List.map_id items]
  refine List.map_congr_left fun item hi => ?_
  obtain ⟨s, rfl⟩ := h item hi
  show QueryValue.text (String.ofList s.toList) = .text s
  rw [String.ofList_toList]

/-- The texts of a value make up what is left of it. -/
theorem unwrapped_eq {value : QueryValue} (h : (∃ s, value = .text s) ∨
    ∃ items, value = .list items ∧ ∀ item ∈ items, ∃ s, item = .text s) :
    unwrapped value = if valueTexts value = [] then none else some (held (valueTexts value)) := by
  rcases h with ⟨s, rfl⟩ | ⟨items, rfl, hi⟩
  · show some (QueryValue.text s) = some (.text (String.ofList s.toList))
    rw [String.ofList_toList]
  · match items with
    | [] => rfl
    | [item] =>
      obtain ⟨s, rfl⟩ := hi _ List.mem_cons_self
      show some (QueryValue.text s) = some (.text (String.ofList s.toList))
      rw [String.ofList_toList]
    | item :: next :: items =>
      show some (QueryValue.list (item :: next :: items)) =
        some (.list (((item :: next :: items).map QueryValue.display).map _))
      rw [map_text_display hi]

theorem IsFlat.tail {entry : QueryKey × QueryValue} {query : Query} (h : IsFlat (entry :: query)) :
    IsFlat query where
  named e he := h.named e (List.mem_cons_of_mem _ he)
  texts e he := h.texts e (List.mem_cons_of_mem _ he)
  distinct := (List.nodup_cons.1 h.distinct).2

theorem fst_mem_of_mem_pairsOf {query : Query} {key : List Char}
    (h : key ∈ (pairsOf query).map (·.1)) : ∃ entry ∈ query, entry.1.display = key := by
  obtain ⟨pair, hp, rfl⟩ := List.mem_map.1 h
  obtain ⟨entry, he, hm⟩ := List.mem_flatMap.1 hp
  obtain ⟨text, -, rfl⟩ := List.mem_map.1 hm
  exact ⟨entry, he, rfl⟩

theorem grouped_pairsOf {query : Query} (h : IsFlat query) : grouped (pairsOf query) = tidied query := by
  induction query with
  | nil => rfl
  | cons entry query ih =>
    obtain ⟨key, value⟩ := entry
    obtain ⟨s, hs⟩ := h.named _ List.mem_cons_self
    have hkey : key = .name s := hs
    subst hkey
    have hnew : s.toList ∉ (pairsOf query).map (·.1) := by
      intro hm
      obtain ⟨other, ho, hd⟩ := fst_mem_of_mem_pairsOf hm
      obtain ⟨t, ht⟩ := h.tail.named other ho
      rw [ht] at hd
      have hst : t = s := String.toList_injective hd
      refine (List.nodup_cons.1 h.distinct).1 (List.mem_map.2 ⟨other, ho, ?_⟩)
      show other.1 = .name s
      rw [ht, hst]
    have hpairs : pairsOf ((.name s, value) :: query) =
        (valueTexts value).map (fun text => (s.toList, text)) ++ pairsOf query := rfl
    have hname : nameOf s.toList = .name s := congrArg QueryKey.name String.ofList_toList
    have htidied : tidied ((.name s, value) :: query) =
        ((unwrapped value).map fun v => (QueryKey.name s, v)).toList ++ tidied query := by
      rw [tidied, List.filterMap_cons]
      cases unwrapped value <;> rfl
    rw [hpairs, grouped_block hnew, ih h.tail, hname, htidied,
      unwrapped_eq (h.texts _ List.mem_cons_self)]
    split <;> rfl

/-! ### Reading what was written -/

theorem body_joinWith {segments : List (List Char)} (hq : ∀ s ∈ segments, '?' ∉ s) :
    body (Text.joinWith '&' segments) = Text.joinWith '&' segments := by
  refine body_of_not_mem ?_
  intro h
  rcases Text.mem_joinWith h with h | ⟨s, hs, hc⟩
  · exact absurd h (by decide)
  · exact hq s hs hc

/-- Segments are read one by one and grouped, if none of them is empty or holds a mark that
has a meaning between segments. -/
theorem parse_joinWith {segments : List (List Char)} (hne : ∀ s ∈ segments, s ≠ [])
    (ha : ∀ s ∈ segments, '&' ∉ s) (hq : ∀ s ∈ segments, '?' ∉ s) :
    parse (Text.joinWith '&' segments) = grouped (segments.map Form.readPair) := by
  rw [parse, body_joinWith hq, Form.readPairs_joinWith hne ha, ofPairs_eq_grouped]

theorem parse_writePairs (pairs : List (List Char × List Char)) :
    parse (Form.writePairs pairs) = grouped pairs := by
  have hquestion : ∀ s ∈ pairs.map Form.writePair, '?' ∉ s := List.forall_mem_map.2 fun pair _ =>
    Form.not_mem_writePair (by decide) (by decide) (by decide) (by decide) pair
  have hbody : body (Form.writePairs pairs) = Form.writePairs pairs := body_joinWith hquestion
  rw [parse, hbody, Form.readPairs_writePairs, ofPairs_eq_grouped]

theorem parse_stringify {query : Query} (h : IsFlat query) :
    parse (stringify query) = tidied query := by
  rw [stringify, parse_writePairs, grouped_pairsOf h]

theorem parse_eq_grouped (text : List Char) :
    parse text = grouped (Form.readPairs (body text)) :=
  ofPairs_eq_grouped _

theorem held_texts (values : List (List Char)) : (∃ s, held values = .text s) ∨
    ∃ items, held values = .list items ∧ ∀ item ∈ items, ∃ s, item = .text s := by
  match values with
  | [] => exact .inr ⟨[], rfl, by simp⟩
  | [value] => exact .inl ⟨_, rfl⟩
  | value :: next :: values =>
    refine .inr ⟨_, rfl, ?_⟩
    intro item hi
    obtain ⟨v, -, rfl⟩ := List.mem_map.1 hi
    exact ⟨_, rfl⟩

theorem unwrapped_held {values : List (List Char)} (h : values ≠ []) :
    unwrapped (held values) = some (held values) := by
  match values with
  | [] => exact absurd rfl h
  | [value] => rfl
  | value :: next :: values => rfl

theorem isFlat_grouped (pairs : List (List Char × List Char)) : IsFlat (grouped pairs) where
  named entry he := by
    obtain ⟨key, -, rfl⟩ := List.mem_map.1 he
    exact ⟨_, rfl⟩
  texts entry he := by
    obtain ⟨key, -, rfl⟩ := List.mem_map.1 he
    exact held_texts _
  distinct := by
    rw [Entries.labels, grouped, List.map_map]
    exact (firstSeen_nodup _).map nameOf_injective

/-- Nothing is unwrapped or dropped of a query that was read. -/
theorem unwrapped_of_mem_grouped {pairs : List (List Char × List Char)}
    {entry : QueryKey × QueryValue} (h : entry ∈ grouped pairs) :
    unwrapped entry.2 = some entry.2 := by
  obtain ⟨key, hk, rfl⟩ := List.mem_map.1 h
  exact unwrapped_held (valuesOf_ne_nil (mem_firstSeen.1 hk))

theorem tidied_eq_self {query : Query} (h : ∀ entry ∈ query, unwrapped entry.2 = some entry.2) :
    tidied query = query := by
  rw [tidied]
  conv => rhs; rw [← List.filterMap_some (l := query)]
  refine List.filterMap_congr fun entry he => ?_
  rw [h entry he]
  rfl

/-! ### One value of a query that was read -/

theorem IsFlat.insert_text {query : Query} (h : IsFlat query) (name value : String) :
    IsFlat (query.insert (.name name) (.text value)) where
  named entry he := by
    rcases Entries.mem_insert id he with hold | ⟨-, -, hkey | ⟨other, ho, hkey⟩⟩
    · exact h.named entry hold
    · exact ⟨name, hkey⟩
    · rw [← hkey]
      exact h.named other ho
  texts entry he := by
    rcases Entries.mem_insert id he with hold | ⟨hvalue, -⟩
    · exact h.texts entry hold
    · exact .inl ⟨value, hvalue⟩
  distinct := Entries.nodup_labels_insert id h.distinct _ _

/-- A text can be written into a query that was read without anything else changing. -/
theorem parse_stringify_insert (text : List Char) (name value : String) :
    parse (stringify ((parse text).insert (.name name) (.text value))) =
      (parse text).insert (.name name) (.text value) := by
  have hflat : IsFlat (parse text) := by
    rw [parse_eq_grouped]
    exact isFlat_grouped _
  rw [parse_stringify (hflat.insert_text name value)]
  refine tidied_eq_self fun entry he => ?_
  rcases Entries.mem_insert id he with hold | ⟨hvalue, -⟩
  · rw [parse_eq_grouped] at hold
    exact unwrapped_of_mem_grouped hold
  · rw [hvalue]
    rfl

/-- The flat codec loses, invents and reorders nothing within a name: written pairs are
read as their grouping, a written query as itself without empty lists and with lists of
one text unwrapped, and a query that was read comes back unchanged. -/
theorem flat_codec_roundtrip :
    (∀ pairs, parse (Form.writePairs pairs) = grouped pairs) ∧
    (∀ query, IsFlat query → parse (stringify query) = tidied query) ∧
    ∀ text, parse (stringify (parse text)) = parse text := by
  refine ⟨parse_writePairs, fun query h => parse_stringify h, fun text => ?_⟩
  rw [parse_eq_grouped text, parse_stringify (isFlat_grouped _)]
  exact tidied_eq_self fun entry he => unwrapped_of_mem_grouped he

/-- A query with a repeated, an empty and a single list, whose texts hold marks of the
encoding. -/
theorem flat_codec_roundtrip_marks :
    parse (stringify
      [(.name "?a", .list [.text "x&y", .text "", .text "%="]), (.name "b", .list []),
        (.name "", .list [.text "+ é"])]) =
      [(.name "?a", .list [.text "x&y", .text "", .text "%="]), (.name "", .text "+ é")] := by
  have hflat : IsFlat
      [(.name "?a", .list [.text "x&y", .text "", .text "%="]), (.name "b", .list []),
        (.name "", .list [.text "+ é"])] :=
    { named := by simp
      texts := by simp
      distinct := by decide }
  exact flat_codec_roundtrip.2.1 _ hflat

end Flat
end QueryCriteria
