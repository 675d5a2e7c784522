import QueryCriteria.Proofs.ArrayShape
import QueryCriteria.Proofs.FlatCodec
import QueryCriteria.Proofs.Trimming

/-!
Lists of names in keyword parameters.  A list may be given in one parameter or be spread over
several of the same name, with blanks around the names and with nothing between two commas; joining,
cutting and trimming find the names again.  A sign in front of a name to sort by is one character,
whatever the name starts with.
-/
namespace QueryCriteria

namespace Text

variable {sep : Char}

theorem joinWith_append {xs ys : List (List Char)} (hx : xs ≠ []) (hy : ys ≠ []) :
    joinWith sep (xs ++ ys) = joinWith sep xs ++ sep :: joinWith sep ys := by
  induction xs with
  | nil => exact absurd rfl hx
  | cons x xs ih =>
    cases xs with
    | nil =>
      obtain ⟨y, ys, rfl⟩ := List.exists_cons_of_ne_nil hy
      rfl
    | cons next xs =>
      show x ++ sep :: joinWith sep (next :: xs ++ ys) = _
      rw [ih (List.cons_ne_nil next xs), joinWith, List.append_assoc]
      rfl

/-- Joining joined chunks joins the pieces of all chunks. -/
theorem joinWith_joinWith {chunks : List (List (List Char))} (h : ∀ chunk ∈ chunks, chunk ≠ []) :
    joinWith sep (chunks.map (joinWith sep)) = joinWith sep chunks.flatten := by
  induction chunks with
  | nil => rfl
  | cons chunk chunks ih =>
    rw [List.forall_mem_cons] at h
    cases chunks with
    | nil =>
      rw [List.flatten_singleton]
      rfl
    | cons next chunks =>
      have hnext : next ≠ [] := h.2 next List.mem_cons_self
      have hrest : (next :: chunks).flatten ≠ [] := by
        rw [List.flatten_cons]
        exact List.append_ne_nil_of_left_ne_nil hnext _
      rw [List.flatten_cons, joinWith_append h.1 hrest, ← ih h.2]
      rfl

/-- Joined texts have the items of all of them. -/
theorem splitOn_joinWith_flatMap {texts : List (List Char)} (hne : texts ≠ []) :
    splitOn sep (joinWith sep texts) = texts.flatMap (splitOn sep) := by
  obtain ⟨text, texts, rfl⟩ := List.exists_cons_of_ne_nil hne
  have hchunks : ∀ chunk ∈ (text :: texts).map (splitOn sep), chunk ≠ [] := by
    rw [List.forall_mem_map]
    exact fun text _ => splitOn_ne_nil sep text
  have hjoined : joinWith sep (text :: texts) =
      joinWith sep ((text :: texts).flatMap (splitOn sep)) := by
    rw [List.flatMap_def, ← joinWith_joinWith hchunks, List.map_map]
    congr 1
    exact (List.map_id _).symm.trans
      (List.map_congr_left fun text _ => (joinWith_splitOn sep text).symm)
  rw [hjoined]
  refine splitOn_joinWith ?_ fun piece hpiece => ?_
  · rw [List.flatMap_cons]
    exact List.append_ne_nil_of_left_ne_nil (splitOn_ne_nil sep text) _
  · obtain ⟨text, -, hpiece⟩ := List.mem_flatMap.1 hpiece
    exact not_mem_of_mem_splitOn hpiece

end Text

namespace Options

open Text (Bare Padded isBlank)

/-- A name that a list can hold: not empty, without commas and without blanks at its ends. -/
structure IsName (name : List Char) : Prop where
  nonempty : name ≠ []
  plain : ',' ∉ name
  bare : Bare isBlank name

instance (name : List Char) : Decidable (IsName name) :=
  decidable_of_iff (name ≠ [] ∧ ',' ∉ name ∧ Bare isBlank name)
    ⟨fun h => ⟨h.1, h.2.1, h.2.2⟩, fun h => ⟨h.nonempty, h.plain, h.bare⟩⟩

/-- The items of a list are its names in order, with blanks around them, and between them any
number of items that are blank or empty. -/
inductive Spells : List (List Char) → List (List Char) → Prop where
  | nil : Spells [] []
  | blank {item : List Char} {items names : List (List Char)} (h : ∀ c ∈ item, isBlank c = true)
      (hrest : Spells items names) : Spells (item :: items) names
  | name {item name : List Char} {items names : List (List Char)} (h : Padded isBlank name item)
      (hrest : Spells items names) : Spells (item :: items) (name :: names)

/-- The items are spread over texts, in each of which they are separated by commas. -/
def Spread (texts names : List (List Char)) : Prop :=
  ∃ chunks : List (List (List Char)), (∀ chunk ∈ chunks, chunk ≠ []) ∧
    texts = chunks.map (Text.joinWith ',') ∧ Spells chunks.flatten names

variable {items names texts : List (List Char)}

theorem comma_not_mem_of_blank {item : List Char} (h : ∀ c ∈ item, isBlank c = true) :
    ',' ∉ item := fun hmem => absurd (h ',' hmem) (by decide)

theorem Spells.comma_not_mem (h : Spells items names) (hnames : ∀ name ∈ names, IsName name) :
    ∀ item ∈ items, ',' ∉ item := by
  induction h with
  | nil => exact nofun
  | blank hblank _ ih => exact List.forall_mem_cons.2 ⟨comma_not_mem_of_blank hblank, ih hnames⟩
  | name hpadded _ ih =>
    rw [List.forall_mem_cons] at hnames
    refine List.forall_mem_cons.2 ⟨fun hcomma => ?_, ih hnames.2⟩
    obtain ⟨before, after, rfl, hbefore, hafter⟩ := hpadded
    rcases List.mem_append.1 hcomma with hcomma | hcomma
    · rcases List.mem_append.1 hcomma with hcomma | hcomma
      · exact comma_not_mem_of_blank hbefore hcomma
      · exact hnames.1.plain hcomma
    · exact comma_not_mem_of_blank hafter hcomma

/-- Trimming gives the names, and leaves nothing of what is between them. -/
theorem Spells.trim_eq (h : Spells items names) (hnames : ∀ name ∈ names, IsName name) :
    (items.map Text.trim).filter (· ≠ []) = names := by
  induction h with
  | nil => rfl
  | @blank item items names hblank _ ih =>
    have hpadded : Padded isBlank [] item := ⟨item, [], by simp, hblank, nofun⟩
    have hnil : Text.trim item = [] := hpadded.strip_eq Text.bare_nil
    rw [List.map_cons, hnil, List.filter_cons_of_neg (by simp), ih hnames]
  | @name item name items names hpadded _ ih =>
    rw [List.forall_mem_cons] at hnames
    have htrim : Text.trim item = name := hpadded.strip_eq hnames.1.bare
    rw [List.map_cons, htrim, List.filter_cons_of_pos (by simpa using hnames.1.nonempty),
      ih hnames.2]

theorem Spells.items_ne_nil (h : Spells items names) (hne : names ≠ []) : items ≠ [] := by
  cases h with
  | nil => exact absurd rfl hne
  | blank => exact List.cons_ne_nil _ _
  | name => exact List.cons_ne_nil _ _

/-- The names of a list are read back from the joined texts that it is spread over. -/
theorem namesOf_spread (h : Spread texts names) (hne : names ≠ [])
    (hnames : ∀ name ∈ names, IsName name) : namesOf (Text.joinWith ',' texts) = names := by
  obtain ⟨chunks, hchunks, rfl, hspells⟩ := h
  rw [Text.joinWith_joinWith hchunks, namesOf,
    Text.splitOn_joinWith (hspells.items_ne_nil hne) (hspells.comma_not_mem hnames),
    hspells.trim_eq hnames]

end Options

/-! ### Parameters -/

/-- The texts of a value: its own one, or those of a repeated parameter. -/
inductive QueryValue.Texts : QueryValue → List (List Char) → Prop where
  | one (text : List Char) : Texts (.text (String.ofList text)) [text]
  | list (texts : List (List Char)) :
      Texts (.list (texts.map fun text => .text (String.ofList text))) texts
  | tuple (texts : List (List Char)) :
      Texts (.tuple (texts.map fun text => .text (String.ofList text))) texts

theorem QueryValue.texts_held (values : List (List Char)) : (Flat.held values).Texts values := by
  match values with
  | [] => exact .list []
  | [value] => exact .one value
  | value :: next :: values => exact .list (value :: next :: values)

/-- A parameter of the query gives the names, in one value or in several. -/
def Query.Gives (query : Query) (name : String) (names : List (List Char)) : Prop :=
  ∃ v texts, query.get? (.name name) = some v ∧ v.Texts texts ∧ Options.Spread texts names

namespace Options

open Text (isBlank)

variable {k : Keywords} {greatest : Option Int} {query : Query} {names texts : List (List Char)}

theorem map_display_text (texts : List (List Char)) :
    (texts.map fun text => QueryValue.text (String.ofList text)).map QueryValue.display = texts := by
  rw [List.map_map]
  conv => rhs; rw [← List.map_id texts]
  exact List.map_congr_left fun text _ => String.toList_ofList

theorem joined_of_texts {v : QueryValue} (h : v.Texts texts) :
    joined v = Text.joinWith ',' texts := by
  cases h with
  | one text => exact String.toList_ofList
  | list => rw [joined, map_display_text]
  | tuple => rw [joined, map_display_text]

theorem exists_value_of_gives {name : String} (h : query.Gives name names) (hne : names ≠ [])
    (hnames : ∀ n ∈ names, IsName n) :
    ∃ v, query.keyword? name = some v ∧ namesOf (joined v) = names := by
  obtain ⟨v, texts, hv, htexts, hspread⟩ := h
  refine ⟨v, ?_, by rw [joined_of_texts htexts, namesOf_spread hspread hne hnames]⟩
  rw [Query.keyword?, hv]
  cases htexts <;> rfl

theorem namesUnder_of_gives {name : String} (h : query.Gives name names) (hne : names ≠ [])
    (hnames : ∀ n ∈ names, IsName n) : namesUnder query name = names.map String.ofList := by
  obtain ⟨v, hv, hjoined⟩ := exists_value_of_gives h hne hnames
  rw [namesUnder, hv, ← hjoined]
  rfl

/-! ### Signs -/

/-- A name to sort by with the sign of its direction. -/
def signed (key : List Char × Direction) : List Char :=
  match key.2 with
  | .ascending => '+' :: key.1
  | .descending => '-' :: key.1

theorem sortKey_signed (key : List Char × Direction) :
    sortKey (signed key) = (String.ofList key.1, key.2) := by
  obtain ⟨name, direction⟩ := key
  cases direction <;> rfl

theorem IsName.signed {key : List Char × Direction} (h : IsName key.1) : IsName (signed key) := by
  obtain ⟨name, direction⟩ := key
  obtain ⟨sign, hsigned, hcomma, hblank⟩ : ∃ sign, Options.signed (name, direction) = sign :: name ∧
      sign ≠ ',' ∧ isBlank sign = false := by
    cases direction with
    | ascending => exact ⟨'+', rfl, by decide, by decide⟩
    | descending => exact ⟨'-', rfl, by decide, by decide⟩
  rw [hsigned]
  refine ⟨List.cons_ne_nil sign name, fun hmem => ?_, fun c hc => ?_, fun c hc => ?_⟩
  · rcases List.mem_cons.1 hmem with heq | hmem
    · exact hcomma heq.symm
    · exact h.plain hmem
  · rwa [← Option.some.inj hc]
  · obtain ⟨first, rest, hname⟩ := List.exists_cons_of_ne_nil h.nonempty
    have hname : name = first :: rest := hname
    rw [hname, List.getLast?_cons_cons, ← hname] at hc
    exact h.bare.last c hc

theorem readSort_of_gives {keys : List (List Char × Direction)} (hne : keys ≠ [])
    (hkeys : ∀ key ∈ keys, IsName key.1) (h : query.Gives k.sort (keys.map signed)) :
    readSort k query = keys.map fun key => (String.ofList key.1, key.2) := by
  have hsigned : ∀ name ∈ keys.map signed, IsName name :=
    List.forall_mem_map.2 fun key hkey => (hkeys key hkey).signed
  obtain ⟨v, hv, hjoined⟩ := exists_value_of_gives h (by simpa using hne) hsigned
  rw [readSort, hv]
  dsimp only
  rw [hjoined, List.map_map]
  exact List.map_congr_left fun key _ => sortKey_signed key

/-! ### Lists -/

/-- The values of a name in a written query string are the texts that the name gives. -/
theorem gives_of_writePairs {pairs : List (List Char × List Char)} {name : List Char}
    (hne : names ≠ []) (h : Spread (Flat.valuesOf name pairs) names) :
    (Flat.parse (Form.writePairs pairs)).Gives (String.ofList name) names := by
  have hmem : name ∈ pairs.map (·.1) := by
    by_contra hnone
    rw [Flat.valuesOf_of_not_mem hnone] at h
    obtain ⟨chunks, -, hchunks, hspells⟩ := h
    rw [List.map_eq_nil_iff.1 hchunks.symm] at hspells
    exact hspells.items_ne_nil hne rfl
  refine ⟨Flat.held (Flat.valuesOf name pairs), _, ?_, QueryValue.texts_held _, h⟩
  rw [Flat.parse_writePairs]
  exact (Flat.get?_grouped name pairs).trans (if_pos hmem)

/-- The names of a list that a parameter gives, or that the repetitions of a parameter in a query
string give together, are read back: as the names to show, where no names are left out; as the
names to leave out, whatever is to be shown; and as the names to sort by, each with the direction
of its sign. -/
theorem name_lists_read_back (k : Keywords) (greatest : Option Int) (query : Query) :
    (∀ names, names ≠ [] → (∀ name ∈ names, IsName name) → query.Gives k.fields names →
      namesUnder query k.omitted = [] →
      (read k greatest query).1.projection = some (.only (names.map String.ofList))) ∧
    (∀ names, names ≠ [] → (∀ name ∈ names, IsName name) → query.Gives k.omitted names →
      (read k greatest query).1.projection = some (.allBut (names.map String.ofList))) ∧
    (∀ keys : List (List Char × Direction), keys ≠ [] → (∀ key ∈ keys, IsName key.1) →
      query.Gives k.sort (keys.map signed) →
      (read k greatest query).1.sort = keys.map fun key => (String.ofList key.1, key.2)) ∧
    ∀ pairs name names, names ≠ [] → Spread (Flat.valuesOf name pairs) names →
      (Flat.parse (Form.writePairs pairs)).Gives (String.ofList name) names := by
  have hmap : ∀ {names : List (List Char)}, names ≠ [] → ¬names.map String.ofList = [] :=
    fun hne hnil => hne (List.map_eq_nil_iff.1 hnil)
  refine ⟨fun names hne hnames hgives hhidden => ?_, fun names hne hnames hgives => ?_,
    fun keys hne hkeys hgives => readSort_of_gives hne hkeys hgives,
    fun pairs name names hne h => gives_of_writePairs hne h⟩
  · show readProjection k query = _
    rw [readProjection_eq, hhidden, namesUnder_of_gives hgives hne hnames, projectionOf, if_pos rfl,
      if_neg (hmap hne)]
  · show readProjection k query = _
    rw [readProjection_eq, namesUnder_of_gives hgives hne hnames, projectionOf, if_neg (hmap hne)]

/-- Names to show with an empty item between them, and names to sort by in two parameters, which
start with signs of their own. -/
def spreadLists : Query :=
  [(.name "fields", .text " a,,b"), (.name "sort", .list [.text "--x , ", .text "++y"])]

theorem name_lists_read_back_spread :
    (read {} none spreadLists).1.projection = some (.only ["a", "b"]) ∧
      (read {} none spreadLists).1.sort = [("-x", .descending), ("+y", .ascending)] := by
  have hblank : ∀ c ∈ [' '], isBlank c = true := List.forall_mem_singleton.2 rfl
  obtain ⟨hfields, -, hsort, -⟩ := name_lists_read_back {} none spreadLists
  have hshown : spreadLists.Gives "fields" [['a'], ['b']] :=
    ⟨_, [[' ', 'a', ',', ',', 'b']], rfl, .one [' ', 'a', ',', ',', 'b'],
      [[[' ', 'a'], [], ['b']]], by decide, rfl,
      .name ⟨[' '], [], rfl, hblank, nofun⟩ (.blank nofun (.name ⟨[], [], rfl, nofun, nofun⟩ .nil))⟩
  have hsorted : spreadLists.Gives "sort" [['-', '-', 'x'], ['+', '+', 'y']] :=
    ⟨_, [['-', '-', 'x', ' ', ',', ' '], ['+', '+', 'y']], rfl,
      .list [['-', '-', 'x', ' ', ',', ' '], ['+', '+', 'y']],
      [[['-', '-', 'x', ' '], [' ']], [['+', '+', 'y']]], by decide, rfl,
      .name ⟨[], [' '], rfl, nofun, hblank⟩
        (.blank hblank (.name ⟨[], [], rfl, nofun, nofun⟩ .nil))⟩
  exact ⟨hfields _ (List.cons_ne_nil _ _) (by decide) hshown rfl,
    hsort [(['-', 'x'], .descending), (['+', 'y'], .ascending)] (List.cons_ne_nil _ _) (by decide)
      hsorted⟩

end Options
end QueryCriteria
