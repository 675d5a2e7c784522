import QueryCriteria.Options
import QueryCriteria.Proofs.IntegerLiteral

/-!
Values as text, and what the options read from it.  A mapping is displayed between braces, and
neither quoting nor the cutting of a text into names loses or adds a brace.  No number is
displayed with one.
-/
namespace QueryCriteria

/-! ### Characters that are counted -/

namespace Text

variable {c : Char}

theorem count_joinWith {sep : Char} (h : sep ≠ c) (pieces : List (List Char)) :
    (joinWith sep pieces).count c = pieces.flatten.count c := by
  fun_induction joinWith sep pieces with
  | case1 => rfl
  | case2 piece => rw [List.flatten_singleton]
  | case3 piece next pieces ih =>
    rw [List.count_append, List.count_cons_of_ne h, ih, ← List.count_append, ← List.flatten_cons]

theorem count_splitOn {sep : Char} (h : sep ≠ c) (cs : List Char) :
    (splitOn sep cs).flatten.count c = cs.count c := by
  rw [← count_joinWith h, joinWith_splitOn]

theorem count_flatMap_congr {α : Type} {f g : α → List Char}
    (h : ∀ x, (f x).count c = (g x).count c) (xs : List α) :
    (xs.flatMap f).count c = (xs.flatMap g).count c := by
  induction xs with
  | nil => rfl
  | cons x xs ih =>
    rw [List.flatMap_cons, List.count_append, h, ih, List.flatMap_cons, List.count_append]

theorem count_dropWhile {p : Char → Bool} (h : p c = false) (cs : List Char) :
    (cs.dropWhile p).count c = cs.count c := by
  induction cs with
  | nil => rfl
  | cons d cs ih =>
    rw [List.dropWhile_cons]
    split
    · next hd =>
      have hne : d ≠ c := by
        rintro rfl
        rw [h] at hd
        cases hd
      rw [List.count_cons_of_ne hne, ih]
    · rfl

theorem count_strip {p : Char → Bool} (h : p c = false) (cs : List Char) :
    (strip p cs).count c = cs.count c := by
  rw [strip, List.count_reverse, count_dropWhile h, List.count_reverse, count_dropWhile h]

/-- A text that neither starts nor ends with a character of the class stays as it is. -/
theorem strip_of_ends {p : Char → Bool} {first last : Char} (hf : p first = false)
    (hl : p last = false) (cs : List Char) :
    strip p (first :: (cs ++ [last])) = first :: (cs ++ [last]) := by
  have hkept : ∀ {d : Char} {ds : List Char}, p d = false → (d :: ds).dropWhile p = d :: ds := by
    intro d ds hd
    rw [List.dropWhile_cons, hd]
    rfl
  have hreverse : (first :: (cs ++ [last])).reverse = last :: (cs.reverse ++ [first]) := by simp
  rw [strip, hkept hf, hreverse, hkept hl, ← hreverse, List.reverse_reverse]

/-! ### Quoted texts -/

theorem hexText_subset (width n : Nat) : ∀ d ∈ hexText width n, ∃ k < 16, d = Nat.digitChar k := by
  induction width generalizing n with
  | zero => exact fun d hd => (List.not_mem_nil hd).elim
  | succ width ih =>
    intro d hd
    rcases List.mem_append.1 hd with hd | hd
    · exact ih _ d hd
    · exact ⟨n % 16, Nat.mod_lt n (by decide), List.mem_singleton.1 hd⟩

theorem brace_not_mem_hexText (width n : Nat) : '{' ∉ hexText width n := by
  intro h
  obtain ⟨k, hk, he⟩ := hexText_subset width n _ h
  have hdigits : ∀ k < 16, '{' ≠ Nat.digitChar k := by decide
  exact hdigits k hk he

theorem brace_not_mem_codeEscape (c : Char) : '{' ∉ codeEscape c := by
  unfold codeEscape
  dsimp only
  split
  · simp [brace_not_mem_hexText]
  · split <;> simp [brace_not_mem_hexText]

theorem isPrintable_brace : isPrintable '{' = true := by decide +kernel

theorem count_quoteChar {mark : Char} (hm : mark ≠ '{') (c : Char) :
    (quoteChar mark c).count '{' = [c].count '{' := by
  by_cases hc : c = '{'
  · subst hc
    have hquote : quoteChar mark '{' = ['{'] := by
      rw [quoteChar, if_neg (by simp [Ne.symm hm]), if_neg (by decide), if_neg (by decide),
        if_neg (by decide), if_pos isPrintable_brace]
    rw [hquote]
  · rw [List.count_cons_of_ne hc, List.count_nil]
    refine List.count_eq_zero.2 ?_
    unfold quoteChar
    split
    · simp [Ne.symm hc]
    · split
      · decide
      · split
        · decide
        · split
          · decide
          · split
            · simpa using Ne.symm hc
            · exact brace_not_mem_codeEscape c

theorem quoteMark_ne_brace (cs : List Char) : quoteMark cs ≠ '{' := by
  unfold quoteMark
  split <;> decide

/-- A quoted text has the braces of the text. -/
theorem count_quoted (cs : List Char) : (quoted cs).count '{' = cs.count '{' := by
  have hmark := quoteMark_ne_brace cs
  have hbody : (cs.flatMap (quoteChar (quoteMark cs))).count '{' = cs.count '{' := by
    rw [count_flatMap_congr (count_quoteChar hmark) cs, List.flatMap_singleton']
  show (quoteMark cs :: (_ ++ [quoteMark cs])).count '{' = _
  rw [List.count_cons_of_ne hmark, List.count_append, hbody, List.count_cons_of_ne hmark]
  rfl

end Text

/-! ### Lists and mappings -/

theorem count_listed {c : Char} (hcomma : ',' ≠ c) (hspace : ' ' ≠ c) (items : List (List Char)) :
    (listed items).count c = items.flatten.count c := by
  fun_induction listed items with
  | case1 => rfl
  | case2 item => rw [List.flatten_singleton]
  | case3 item next items ih =>
    rw [List.count_append, List.count_cons_of_ne hcomma, List.count_cons_of_ne hspace, ih,
      ← List.count_append, ← List.flatten_cons]

theorem brace_not_mem_naturalText (n : Nat) : '{' ∉ naturalText n := by
  intro h
  have hdigit := Nat.isDigit_of_mem_toDigits (by decide) (by decide) h
  exact absurd hdigit (by decide)

namespace QueryValue

theorem flattenItems_eq_map (items : List QueryValue) : flattenItems items = items.map flatten := by
  induction items with
  | nil => rfl
  | cons item items ih => rw [flattenItems, ih, List.map_cons]

theorem flattenEntries_eq_map (entries : List (QueryKey × QueryValue)) :
    flattenEntries entries = entries.map fun entry => flatten entry.2 := by
  induction entries with
  | nil => rfl
  | cons entry entries ih => rw [flattenEntries, ih, List.map_cons]

theorem shownItems_eq_map (items : List QueryValue) : shownItems items = items.map shown := by
  induction items with
  | nil => rfl
  | cons item items ih => rw [shownItems, ih, List.map_cons]

theorem shownEntries_eq_map (entries : List (QueryKey × QueryValue)) :
    shownEntries entries =
      entries.map fun entry => entry.1.shown ++ ':' :: ' ' :: shown entry.2 := by
  induction entries with
  | nil => rfl
  | cons entry entries ih => rw [shownEntries, ih, List.map_cons]

theorem count_shown_list (items : List QueryValue) :
    (shown (.list items)).count '{' = (items.flatMap shown).count '{' := by
  rw [shown, List.count_cons_of_ne (by decide), List.count_append,
    count_listed (by decide) (by decide), shownItems_eq_map]
  rfl

/-- A mapping is displayed with a brace of its own. -/
theorem count_shown_nested (entries : Query) :
    (shown (.nested entries)).count '{' =
      (entries.flatMap fun entry => entry.1.shown ++ entry.2.shown).count '{' + 1 := by
  have hentry : ∀ entry : QueryKey × QueryValue,
      (entry.1.shown ++ ':' :: ' ' :: shown entry.2).count '{' =
        (entry.1.shown ++ entry.2.shown).count '{' := by
    intro entry
    rw [List.count_append, List.count_cons_of_ne (by decide), List.count_cons_of_ne (by decide),
      List.count_append]
  rw [shown, List.count_cons_self, List.count_append, count_listed (by decide) (by decide),
    shownEntries_eq_map, ← List.flatMap_def, Text.count_flatMap_congr hentry]
  rfl

end QueryValue

namespace Options

/-! ### Names -/

theorem count_namesOf {c : Char} (hcomma : ',' ≠ c) (hblank : Text.isBlank c = false)
    (text : List Char) : (namesOf text).flatten.count c = text.count c := by
  have htrim : ∀ piece : List Char, (Text.trim piece).count c = piece.count c :=
    Text.count_strip hblank
  rw [namesOf, List.flatten_filter_ne_nil, ← List.flatMap_def, Text.count_flatMap_congr htrim,
    List.flatMap_id', Text.count_splitOn hcomma]

theorem count_names (value : QueryValue) :
    ((names value).flatMap String.toList).count '{' = (joined value).count '{' := by
  have hnames : (names value).flatMap String.toList = (namesOf (joined value)).flatten := by
    rw [names, List.flatMap_map]
    simp only [String.toList_ofList, List.flatMap_id']
  rw [hnames, count_namesOf (by decide) (by decide)]

/-- A direction is written with a sign, which is no brace. -/
theorem count_sortKey (name : List Char) : (sortKey name).1.toList.count '{' = name.count '{' := by
  unfold sortKey
  split
  · rw [String.toList_ofList, List.count_cons_of_ne (by decide)]
  · rw [String.toList_ofList, List.count_cons_of_ne (by decide)]
  · rw [String.toList_ofList]

theorem count_readSort {k : Keywords} {query : Query} {value : QueryValue}
    (h : query.keyword? k.sort = some value) :
    ((readSort k query).flatMap fun key => key.1.toList).count '{' = (joined value).count '{' := by
  rw [readSort, h]
  dsimp only
  rw [List.flatMap_map, Text.count_flatMap_congr count_sortKey, List.flatMap_id',
    count_namesOf (by decide) (by decide)]

/-! ### Numbers -/

theorem readLoose?_brace (cs : List Char) :
    Numeral.readLoose? ('{' :: (cs ++ ['}'])) = none := by
  have hread : ∀ ds : List Char, Numeral.read? ('{' :: ds) = none := fun _ => rfl
  have hdrop : ∀ ds : List Char, Text.dropSeparators false ('{' :: ds) =
      (Text.dropSeparators false ds).map ('{' :: ·) := fun _ => rfl
  rw [Numeral.readLoose?, Text.strip_of_ends rfl rfl, hdrop]
  cases Text.dropSeparators false (cs ++ ['}']) with
  | none => rfl
  | some ds => exact hread ds

theorem readWholePart?_brace (cs : List Char) : readWholePart? ('{' :: (cs ++ ['}'])) = none := by
  have hword : ∀ ds : List Char, Binary64.readWord? ('{' :: ds) = none := by
    intro ds
    have hlower : Char.toLower '{' = '{' := rfl
    simp [Binary64.readWord?, hlower]
  have hsign : ∀ ds : List Char, Numeral.spanSign ('{' :: ds) = (false, '{' :: ds) := fun _ => rfl
  rw [readWholePart?, Text.trim, Text.strip_of_ends rfl rfl, readInteger?, readLoose?_brace,
    Binary64.read?, Text.strip_of_ends rfl rfl, hsign, readLoose?_brace]
  simp only [hword]
  rfl

/-- A mapping is no number. -/
theorem integer?_nested (entries : Query) : integer? (.nested entries) = none := by
  show readWholePart? (QueryValue.shown (.nested entries)) = none
  rw [QueryValue.shown, readWholePart?_brace]

end Options
end QueryCriteria
