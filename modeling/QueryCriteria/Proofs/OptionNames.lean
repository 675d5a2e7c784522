import QueryCriteria.Proofs.NameLists

/-!
The names that options hold.  An item of a list that is cut out at commas and trimmed is a name or
empty, and the empty ones are dropped.  The sign of a name to sort by comes off only after that, so
the rest is a name exactly if the sign does not stand alone.
-/
namespace QueryCriteria

/-- The names that a projection mentions. -/
def Projection.names : Projection → List String
  | only names => names
  | allBut names => names

/-- The items that a keyword lists, in one value or in several. -/
def Query.listItems (query : Query) (name : String) : List (List Char) :=
  ((query.keyword? name).map fun value => Text.splitOn ',' (Options.joined value)).getD []

namespace Options

open Text (Bare Padded isBlank)

variable {k : Keywords} {greatest : Option Int} {query : Query} {item name text : List Char}

/-! ### Items and names -/

theorem mem_namesOf : name ∈ namesOf text ↔
    name ≠ [] ∧ ∃ item ∈ Text.splitOn ',' text, Text.trim item = name := by
  rw [namesOf, List.mem_filter, List.mem_map, decide_eq_true_eq, and_comm]

theorem isName_trim (hne : Text.trim item ≠ []) (hcomma : ',' ∉ item) :
    IsName (Text.trim item) where
  nonempty := hne
  plain := fun hmem => hcomma (Text.mem_of_mem_strip hmem)
  bare := Text.bare_strip isBlank item

theorem isName_of_mem_namesOf (h : name ∈ namesOf text) : IsName name := by
  obtain ⟨hne, item, hitem, rfl⟩ := mem_namesOf.1 h
  exact isName_trim hne (Text.not_mem_of_mem_splitOn hitem)

theorem isName_of_mem_namesUnder {keyword shown : String} (h : shown ∈ namesUnder query keyword) :
    IsName shown.toList := by
  unfold namesUnder at h
  cases hvalue : query.keyword? keyword with
  | none =>
    rw [hvalue] at h
    cases h
  | some value =>
    rw [hvalue] at h
    obtain ⟨name, hname, rfl⟩ := List.mem_map.1 h
    rw [String.toList_ofList]
    exact isName_of_mem_namesOf hname

/-- A projection mentions at least one name. -/
theorem names_of_projectionOf {hidden shown : List String} {p : Projection}
    (h : projectionOf hidden shown = some p) :
    p.names ≠ [] ∧ (p.names = hidden ∨ p.names = shown) := by
  unfold projectionOf at h
  split at h
  · split at h
    · cases h
    · next hshown =>
      obtain rfl := Option.some.inj h
      exact ⟨hshown, .inr rfl⟩
  · next hhidden =>
    obtain rfl := Option.some.inj h
    exact ⟨hhidden, .inl rfl⟩

/-! ### Names to sort by -/

def IsSign (c : Char) : Prop := c = '-' ∨ c = '+'

/-- Behind blanks the item starts with a sign that is followed by a blank or by nothing. -/
def SignAlone (item : List Char) : Prop :=
  ∃ before sign after, item = before ++ sign :: after ∧ (∀ c ∈ before, isBlank c = true) ∧
    IsSign sign ∧ ∀ c ∈ after.head?, isBlank c = true

theorem IsSign.not_isBlank {sign : Char} (h : IsSign sign) : isBlank sign = false := by
  rcases h with rfl | rfl <;> rfl

theorem IsSign.sortKey_eq {sign : Char} (h : IsSign sign) (rest : List Char) :
    (sortKey (sign :: rest)).1.toList = rest := by
  rcases h with rfl | rfl
  · exact String.toList_ofList
  · exact String.toList_ofList

theorem sortKey_eq_self (h : ∀ c ∈ name.head?, ¬IsSign c) : (sortKey name).1.toList = name := by
  unfold sortKey
  split
  · exact absurd (.inl rfl) (h '-' rfl)
  · exact absurd (.inr rfl) (h '+' rfl)
  · exact String.toList_ofList

theorem sign_or_unsigned (name : List Char) :
    (∃ sign rest, name = sign :: rest ∧ IsSign sign) ∨ ∀ c ∈ name.head?, ¬IsSign c := by
  by_cases h : ∀ c ∈ name.head?, ¬IsSign c
  · exact .inr h
  · push Not at h
    obtain ⟨sign, hhead, hsign⟩ := h
    obtain ⟨rest, rfl⟩ := List.head?_eq_some_iff.1 hhead
    exact .inl ⟨sign, rest, rfl, hsign⟩

/-- Of a name with a sign in front, only the sign can come off. -/
theorem sortKey_suffix (name : List Char) : (sortKey name).1.toList <:+ name := by
  rcases sign_or_unsigned name with ⟨sign, rest, rfl, hsign⟩ | hunsigned
  · rw [hsign.sortKey_eq]
    exact List.suffix_cons sign rest
  · exact ⟨[], sortKey_eq_self hunsigned⟩

/-- A name without its first character is a name unless it goes on with a blank or ends there. -/
theorem IsName.tail_iff {c : Char} {rest : List Char} (h : IsName (c :: rest)) :
    IsName rest ↔ ¬∀ d ∈ rest.head?, isBlank d = true := by
  cases rest with
  | nil => exact iff_of_false (fun hrest => hrest.nonempty rfl) fun hnot => hnot nofun
  | cons first tail =>
    have hhead : (∀ d ∈ (first :: tail).head?, isBlank d = true) ↔ isBlank first = true := by simp
    rw [hhead, Bool.not_eq_true]
    constructor
    · exact fun hrest => hrest.bare.head first rfl
    · intro hfirst
      refine ⟨List.cons_ne_nil first tail, fun hmem => h.plain (List.mem_cons_of_mem c hmem),
        fun d hd => ?_, fun d hd => h.bare.last d ?_⟩
      · rwa [← Option.some.inj hd]
      · rwa [List.getLast?_cons_cons]

/-- Trimming leaves a sign alone exactly if it stood alone. -/
theorem signAlone_iff : SignAlone item ↔ ∃ sign rest,
    Text.trim item = sign :: rest ∧ IsSign sign ∧ ∀ c ∈ rest.head?, isBlank c = true := by
  constructor
  · rintro ⟨before, sign, after, rfl, hbefore, hsign, hafter⟩
    obtain ⟨rest, htrim, hrest⟩ := Text.exists_strip_lead hbefore hsign.not_isBlank after
    refine ⟨sign, rest, htrim, hsign, fun c hc => hafter c ?_⟩
    obtain ⟨rest, rfl⟩ := List.head?_eq_some_iff.1 hc
    obtain ⟨tail, rfl⟩ := hrest
    rfl
  · rintro ⟨sign, rest, htrim, hsign, hrest⟩
    obtain ⟨before, tail, hitem, hbefore, htail⟩ := Text.padded_strip isBlank item
    rw [show Text.strip isBlank item = sign :: rest from htrim, List.append_assoc] at hitem
    -- what was trimmed at the end stands directly behind a sign that is alone
    refine ⟨before, sign, rest ++ tail, hitem, hbefore, hsign, fun c hc => ?_⟩
    cases rest with
    | nil => exact htail c (List.mem_of_mem_head? hc)
    | cons next rest => exact hrest c hc

/-- What is left of a trimmed item is a name unless a sign was alone in it. -/
theorem isName_sortKey_iff (hne : Text.trim item ≠ []) (hcomma : ',' ∉ item) :
    IsName (sortKey (Text.trim item)).1.toList ↔ ¬SignAlone item := by
  have hname : IsName (Text.trim item) := isName_trim hne hcomma
  rw [signAlone_iff]
  rcases sign_or_unsigned (Text.trim item) with ⟨sign, rest, htrim, hsign⟩ | hunsigned
  · rw [htrim] at hname ⊢
    rw [hsign.sortKey_eq, hname.tail_iff, not_iff_not]
    constructor
    · exact fun hblank => ⟨sign, rest, rfl, hsign, hblank⟩
    · rintro ⟨other, behind, heq, -, hblank⟩
      rwa [(List.cons.inj heq).2]
  · rw [sortKey_eq_self hunsigned]
    refine iff_of_true hname ?_
    rintro ⟨sign, rest, htrim, hsign, -⟩
    exact hunsigned sign (by rw [htrim]; rfl) hsign

theorem mem_readSort {key : String × Direction} : key ∈ readSort k query ↔
    ∃ item ∈ query.listItems k.sort, Text.trim item ≠ [] ∧ sortKey (Text.trim item) = key := by
  unfold readSort Query.listItems
  cases query.keyword? k.sort with
  | none => exact ⟨nofun, nofun⟩
  | some value =>
    show key ∈ (namesOf (joined value)).map sortKey ↔ ∃ item ∈ Text.splitOn ',' (joined value), _
    rw [List.mem_map]
    constructor
    · rintro ⟨name, hname, rfl⟩
      obtain ⟨hne, item, hitem, rfl⟩ := mem_namesOf.1 hname
      exact ⟨item, hitem, hne, rfl⟩
    · rintro ⟨item, hitem, hne, rfl⟩
      exact ⟨Text.trim item, mem_namesOf.2 ⟨hne, item, hitem, rfl⟩, rfl⟩

/-- The items of texts are those of each of them. -/
theorem listItems_of_texts {keyword : String} {value : QueryValue} {texts : List (List Char)}
    (h : query.keyword? keyword = some value) (htexts : value.Texts texts) (hne : texts ≠ []) :
    query.listItems keyword = texts.flatMap (Text.splitOn ',') := by
  rw [Query.listItems, h, Option.map_some, Option.getD_some, joined_of_texts htexts]
  exact Text.splitOn_joinWith_flatMap hne

theorem comma_not_mem_listItems {keyword : String} (h : item ∈ query.listItems keyword) :
    ',' ∉ item := by
  unfold Query.listItems at h
  cases hvalue : query.keyword? keyword with
  | none =>
    rw [hvalue] at h
    cases h
  | some value =>
    rw [hvalue] at h
    exact Text.not_mem_of_mem_splitOn h

theorem readSort_isName_iff :
    (∀ key ∈ readSort k query, IsName key.1.toList) ↔
      ∀ item ∈ query.listItems k.sort, ¬SignAlone item := by
  constructor
  · intro h item hitem halone
    have hne : Text.trim item ≠ [] := by
      obtain ⟨sign, rest, htrim, -, -⟩ := signAlone_iff.1 halone
      rw [htrim]
      exact List.cons_ne_nil sign rest
    have hname := h _ (mem_readSort.2 ⟨item, hitem, hne, rfl⟩)
    exact (isName_sortKey_iff hne (comma_not_mem_listItems hitem)).1 hname halone
  · intro h key hkey
    obtain ⟨item, hitem, hne, rfl⟩ := mem_readSort.1 hkey
    exact (isName_sortKey_iff hne (comma_not_mem_listItems hitem)).2 (h item hitem)

/-- A name to sort by can lack only what a sign took from it: it has no comma and no blank at its
end. -/
theorem plain_of_mem_readSort {key : String × Direction} (h : key ∈ readSort k query) :
    ',' ∉ key.1.toList ∧ ∀ c ∈ key.1.toList.getLast?, isBlank c = false := by
  obtain ⟨item, hitem, hne, rfl⟩ := mem_readSort.1 h
  have hname := isName_trim hne (comma_not_mem_listItems hitem)
  obtain ⟨sign, hsuffix⟩ := sortKey_suffix (Text.trim item)
  refine ⟨fun hmem => hname.plain ?_, fun c hc => hname.bare.last c ?_⟩
  · rw [← hsuffix]
    exact List.mem_append_right sign hmem
  · rw [← hsuffix, List.getLast?_append, Option.mem_def.1 hc]
    rfl

/-- All names of a projection are names, and there is at least one.  The names to sort by have no
comma and no blank at their end, and all of them are names exactly if no item of the list has a
sign that is followed by a blank or by nothing.  The items of a text, or of several, are the pieces
between its commas. -/
theorem option_names_clean_iff (k : Keywords) (greatest : Option Int) (query : Query) :
    (∀ p, (read k greatest query).1.projection = some p →
      p.names ≠ [] ∧ ∀ name ∈ p.names, IsName name.toList) ∧
    (∀ key ∈ (read k greatest query).1.sort,
      ',' ∉ key.1.toList ∧ ∀ c ∈ key.1.toList.getLast?, isBlank c = false) ∧
    ((∀ key ∈ (read k greatest query).1.sort, IsName key.1.toList) ↔
      ∀ item ∈ query.listItems k.sort, ¬SignAlone item) ∧
    ∀ value texts, query.keyword? k.sort = some value → value.Texts texts → texts ≠ [] →
      query.listItems k.sort = texts.flatMap (Text.splitOn ',') := by
  refine ⟨fun p hp => ?_, fun key hkey => plain_of_mem_readSort hkey, readSort_isName_iff,
    fun value texts hvalue htexts hne => listItems_of_texts hvalue htexts hne⟩
  have hread : readProjection k query = some p := hp
  rw [readProjection_eq] at hread
  obtain ⟨hne, hnames⟩ := names_of_projectionOf hread
  refine ⟨hne, fun name hname => ?_⟩
  rcases hnames with hnames | hnames
  · exact isName_of_mem_namesUnder (hnames ▸ hname)
  · exact isName_of_mem_namesUnder (hnames ▸ hname)

/-- Names to show with blanks and an empty item, and names to sort by with blanks around their
signs. -/
def signedNames : Query :=
  [(.name "fields", .text " a ,,b"), (.name "sort", .list [.text " -x ", .text "+y"])]

theorem option_names_clean_signed :
    (∃ p, (read {} none signedNames).1.projection = some p ∧ p.names = ["a", "b"] ∧
      ∀ name ∈ p.names, IsName name.toList) ∧
      ∀ key ∈ (read {} none signedNames).1.sort, IsName key.1.toList := by
  obtain ⟨hprojection, -, hsort, hitems⟩ := option_names_clean_iff {} none signedNames
  refine ⟨⟨.only ["a", "b"], rfl, rfl, (hprojection _ rfl).2⟩, hsort.2 fun item hitem halone => ?_⟩
  have hpieces : signedNames.listItems "sort" = [[' ', '-', 'x', ' '], ['+', 'y']] :=
    hitems _ [[' ', '-', 'x', ' '], ['+', 'y']] rfl (.list [[' ', '-', 'x', ' '], ['+', 'y']])
      (List.cons_ne_nil _ _)
  rw [hpieces, List.mem_pair] at hitem
  obtain ⟨sign, rest, htrim, -, hrest⟩ := signAlone_iff.1 halone
  rcases hitem with rfl | rfl
  · cases htrim
    exact absurd (hrest 'x' rfl) (by decide)
  · cases htrim
    exact absurd (hrest 'y' rfl) (by decide)

/-- A sign alone leaves the empty name, and a sign before a blank leaves a name that starts with
the blank. -/
theorem sign_without_name :
    (read {} none [(.name "sort", .text "-")]).1.sort = [("", .descending)] ∧
    (read {} none [(.name "sort", .text "- a")]).1.sort = [(" a", .descending)] ∧
    ¬∀ (k : Keywords) (greatest : Option Int) (query : Query),
      ∀ key ∈ (read k greatest query).1.sort, IsName key.1.toList := by
  refine ⟨rfl, rfl, fun h => ?_⟩
  have hempty : ("", Direction.descending) ∈ (read {} none [(.name "sort", .text "-")]).1.sort :=
    List.mem_singleton.2 rfl
  exact (h {} none _ _ hempty).nonempty rfl

end Options
end QueryCriteria
