import QueryCriteria.Proofs.DateGrammar
import QueryCriteria.Proofs.Fallible
import QueryCriteria.Proofs.TypedLiteral

/-!
At most one reader takes a text.  The first character of a text decides between the readers, except
for dates and numbers, which can both start with digits; and a date that is also a number is a year
alone, which is read as a date only where a line break follows it.  Hence the readers can stand in
any order, and one that is switched off leaves its own texts as they are and no other text.
-/
namespace QueryCriteria

open DateText (isDigit)

/-! ### Numbers -/

theorem Text.digit?_of_not_isDigit {c : Char} (h : isDigit c = false) : digit? c = none := by
  cases hd : digit? c with
  | none => rfl
  | some d =>
    rw [isDigit, hd] at h
    cases h

namespace Numeral

/-- A number starts with a sign, a point or a digit. -/
theorem read?_cons {c : Char} (hminus : c ≠ '-') (hplus : c ≠ '+') (hpoint : c ≠ '.')
    (hdigit : isDigit c = false) (cs : List Char) : read? (c :: cs) = none := by
  have hsign : spanSign (c :: cs) = (false, c :: cs) := by
    rw [spanSign]
    · rintro rest ⟨⟩
      exact hminus rfl
    · rintro rest ⟨⟩
      exact hplus rfl
  have hwhole : Text.spanDigits (c :: cs) = ([], c :: cs) := by
    rw [Text.spanDigits, Text.digit?_of_not_isDigit hdigit]
  have hfraction : spanFraction (c :: cs) = (none, c :: cs) := by
    rw [spanFraction]
    rintro rest ⟨⟩
    exact hpoint rfl
  rw [read?]
  simp only [hsign, hwhole, hfraction]
  rfl

/-- No number goes on with a minus sign after its first digits. -/
theorem read?_minus {digits : List Char} (hne : digits ≠ []) (h : ∀ c ∈ digits, isDigit c = true)
    (cs : List Char) : read? (digits ++ '-' :: cs) = none := by
  obtain ⟨c, ds, rfl⟩ := List.exists_cons_of_ne_nil hne
  have hc : isDigit c = true := h c List.mem_cons_self
  have hsign : spanSign (c :: ds ++ '-' :: cs) = (false, c :: ds ++ '-' :: cs) := by
    rw [List.cons_append, spanSign]
    · rintro rest ⟨⟩
      exact absurd hc (by decide)
    · rintro rest ⟨⟩
      exact absurd hc (by decide)
  have hwhole : (Text.spanDigits (c :: ds ++ '-' :: cs)).2 = '-' :: cs := by
    rw [Text.spanDigits_run h fun d hd => by rw [← Option.some.inj hd]; decide]
  rw [read?]
  simp only [hsign, hwhole]
  show (if _ then none else _) = _
  split <;> rfl

end Numeral

namespace Reader

variable {reader a b : Reader} {text : List Char}

/-! ### First characters -/

/-- The readers that can take a text with the first character. -/
def candidates (c : Char) : List Reader :=
  if c = '/' then [regex]
  else if c = '"' ∨ c = '\'' then [quoted]
  else if c = 't' ∨ c = 'f' then [boolean]
  else if c = '-' ∨ c = '+' ∨ c = '.' then [number]
  else if isDigit c = true then [date, number]
  else []

theorem candidates_of_isDigit {c : Char} (h : isDigit c = true) : candidates c = [date, number] := by
  have hmarks : ∀ d ∈ ['/', '"', '\'', 't', 'f', '-', '+', '.'], isDigit d = false := by
    simp only [List.forall_mem_cons]
    exact ⟨rfl, rfl, rfl, rfl, rfl, rfl, rfl, rfl, nofun⟩
  have hne : ∀ d ∈ ['/', '"', '\'', 't', 'f', '-', '+', '.'], c ≠ d :=
    fun d hd => ne_of_isDigit h (hmarks d hd)
  simp only [List.forall_mem_cons] at hne
  obtain ⟨hslash, hdouble, hsingle, ht, hf, hminus, hplus, hpoint, -⟩ := hne
  rw [candidates, if_neg hslash, if_neg (not_or.2 ⟨hdouble, hsingle⟩), if_neg (not_or.2 ⟨ht, hf⟩),
    if_neg (not_or.2 ⟨hminus, not_or.2 ⟨hplus, hpoint⟩⟩), if_pos h]

/-- Only a digit leaves more than one reader. -/
theorem candidates_cases (c : Char) :
    (∀ a ∈ candidates c, ∀ b ∈ candidates c, a = b) ∨ candidates c = [date, number] := by
  have hone : ∀ reader : Reader, ∀ a ∈ [reader], ∀ b ∈ [reader], a = b := by
    intro reader a ha b hb
    rw [List.mem_singleton.1 ha, List.mem_singleton.1 hb]
  unfold candidates
  split
  · exact .inl (hone regex)
  · split
    · exact .inl (hone quoted)
    · split
      · exact .inl (hone boolean)
      · split
        · exact .inl (hone number)
        · split
          · exact .inr rfl
          · exact .inl nofun

theorem readWhole_nil (reader : Reader) : reader.readWhole [] = .ok none := by
  cases reader <;> rfl

theorem mem_candidates {c : Char} {cs : List Char} (h : reader.readWhole (c :: cs) ≠ .ok none) :
    reader ∈ candidates c := by
  cases reader with
  | regex =>
    have hc : c = '/' := by
      by_contra hne
      exact h (readRegex_cons hne cs)
    rw [hc]
    decide
  | quoted =>
    have hc : c = '"' ∨ c = '\'' := by
      by_contra hne
      rw [not_or] at hne
      exact h (by rw [readWhole, readQuoted?_cons hne.1 hne.2]; rfl)
    rcases hc with rfl | rfl <;> decide
  | boolean =>
    have hc : c = 't' ∨ c = 'f' := by
      by_contra hne
      rw [not_or] at hne
      exact h (by rw [readWhole, readBoolean?_cons hne.1 hne.2])
    rcases hc with rfl | rfl <;> decide
  | date =>
    have hc : isDigit c = true := by
      by_contra hne
      rw [Bool.not_eq_true] at hne
      exact h (by rw [readWhole, DateText.read?, DateText.spanYear?_cons hne]; rfl)
    rw [candidates_of_isDigit hc]
    decide
  | number =>
    have hc : c = '-' ∨ c = '+' ∨ c = '.' ∨ isDigit c = true := by
      by_contra hne
      simp only [not_or, Bool.not_eq_true] at hne
      obtain ⟨hminus, hplus, hpoint, hdigit⟩ := hne
      exact h (by rw [readWhole, readNumber?, Numeral.read?_cons hminus hplus hpoint hdigit]; rfl)
    rcases hc with rfl | rfl | rfl | hc
    · decide
    · decide
    · decide
    · rw [candidates_of_isDigit hc]
      decide

/-- The reader does not pass the text on: it gives a value or meets a fault. -/
def Takes (reader : Reader) (text : List Char) : Prop := reader.read text ≠ .ok none

theorem takes_of_read {v : Value} (h : reader.read text = .ok (some v)) : reader.Takes text := by
  rw [Takes, h]
  nofun

theorem readWhole_of_takes (h : reader.Takes text) :
    reader.readWhole (Text.dropFinalNewline text) ≠ .ok none ∧ ¬ (reader = date ∧ text.length = 4) := by
  rw [Takes, read] at h
  split at h
  · exact absurd rfl h
  · next hyear => exact ⟨h, hyear⟩

theorem mem_candidates_of_takes (h : reader.Takes text) :
    ∃ c cs, text = c :: cs ∧ reader ∈ candidates c := by
  obtain ⟨hwhole, -⟩ := readWhole_of_takes h
  cases hdrop : Text.dropFinalNewline text with
  | nil =>
    rw [hdrop, readWhole_nil] at hwhole
    exact absurd rfl hwhole
  | cons c cs =>
    rw [hdrop] at hwhole
    obtain ⟨rest, htext⟩ := Text.dropFinalNewline_prefix text
    rw [hdrop] at htext
    exact ⟨c, cs ++ rest, htext.symm, mem_candidates hwhole⟩

/-! ### Dates and numbers -/

/-- Four digits leave two readers. -/
theorem date_or_number_of_takes {year : YearLiteral} {rest : List Char}
    (h : reader.Takes (year.text ++ rest)) : reader = date ∨ reader = number := by
  obtain ⟨c, cs, hcons, hmem⟩ := mem_candidates_of_takes h
  have hdigit : isDigit c = true := by
    rw [← (List.cons.inj hcons).1]
    exact year.decimal _ List.mem_cons_self
  rw [candidates_of_isDigit hdigit] at hmem
  exact (List.mem_cons.1 hmem).imp_right List.mem_singleton.1

/-- Four digits and a line break. -/
def IsYearLine (text : List Char) : Prop := ∃ year : YearLiteral, text = year.text ++ ['\n']

/-- A date that goes on after its year is no number. -/
theorem readNumber?_month (year : YearLiteral) (month : MonthLiteral) :
    readNumber? (year.text ++ month.text) = none := by
  have hnone : Numeral.read? (year.text ++ month.text) = none :=
    Numeral.read?_minus (List.cons_ne_nil _ _) year.decimal _
  rw [readNumber?, hnone]
  rfl

theorem isYearLine_of_takes (hdate : date.Takes text) (hnumber : number.Takes text) :
    IsYearLine text := by
  obtain ⟨hread, hlength⟩ := readWhole_of_takes hdate
  obtain ⟨hnumeral, -⟩ := readWhole_of_takes hnumber
  cases hparts : DateText.read? (Text.dropFinalNewline text) with
  | none =>
    rw [readWhole, hparts] at hread
    exact absurd rfl hread
  | some parts =>
    obtain ⟨⟨year, month⟩, hdrop, -⟩ := DateLiteral.exists_text hparts
    cases month with
    | some month =>
      rw [← hdrop] at hnumeral
      exact absurd (congrArg Except.ok (readNumber?_month year month)) hnumeral
    | none =>
      have hyear : year.text = Text.dropFinalNewline text := by
        rw [← hdrop, DateLiteral.text]
        exact (List.append_nil _).symm
      rcases Text.eq_dropFinalNewline text with heq | heq
      · rw [heq, ← hyear] at hlength
        exact absurd ⟨rfl, rfl⟩ hlength
      · exact ⟨year, by rw [hyear]; exact heq⟩

/-- At most one reader takes a text. -/
theorem Takes.unique (htext : ¬ IsYearLine text) (ha : a.Takes text) (hb : b.Takes text) : a = b := by
  obtain ⟨c, cs, rfl, hca⟩ := mem_candidates_of_takes ha
  obtain ⟨d, ds, hcons, hcb⟩ := mem_candidates_of_takes hb
  obtain ⟨rfl, rfl⟩ := List.cons.inj hcons
  rcases candidates_cases c with hone | hc
  · exact hone a hca b hcb
  · simp only [hc, List.mem_cons, List.not_mem_nil, or_false] at hca hcb
    rcases hca with rfl | rfl <;> rcases hcb with rfl | rfl
    · rfl
    · exact absurd (isYearLine_of_takes ha hb) htext
    · exact absurd (isYearLine_of_takes hb ha) htext
    · rfl

/-- So there is one reader that takes the text if any does. -/
theorem exists_only (htext : ¬ IsYearLine text) :
    ∃ reader : Reader, ∀ other : Reader, other.Takes text → other = reader := by
  by_cases h : ∃ reader : Reader, reader.Takes text
  · obtain ⟨reader, hreader⟩ := h
    exact ⟨reader, fun other hother => hother.unique htext hreader⟩
  · exact ⟨regex, fun other hother => absurd ⟨other, hother⟩ h⟩

/-! ### Readers in a row -/

/-- The reader gives the value of the text in a row of readers, since those before it pass the text
on. -/
def Builds (reader : Reader) (readers : List Reader) (text : List Char) (v : Value) : Prop :=
  ∃ before after, readers = before ++ reader :: after ∧
    (∀ other ∈ before, other.read text = .ok none) ∧ reader.read text = .ok (some v)

theorem readFirst_takes (h : reader.Takes text) (readers : List Reader) :
    readFirst text (reader :: readers) = reader.read text := by
  rw [readFirst]
  split
  · next hpass => exact absurd hpass h
  · rfl

theorem readFirst_eq_none_iff {readers : List Reader} :
    readFirst text readers = .ok none ↔ ∀ reader ∈ readers, reader.read text = .ok none := by
  induction readers with
  | nil => exact ⟨fun _ => nofun, fun _ => rfl⟩
  | cons reader readers ih =>
    rw [List.forall_mem_cons, ← ih]
    constructor
    · intro h
      by_cases hpass : reader.read text = .ok none
      · rw [readFirst_skip hpass] at h
        exact ⟨hpass, h⟩
      · rw [readFirst_takes hpass] at h
        exact absurd h hpass
    · rintro ⟨hpass, hrest⟩
      rw [readFirst_skip hpass, hrest]

theorem readFirst_append {before : List Reader} (h : ∀ reader ∈ before, reader.read text = .ok none)
    (readers : List Reader) : readFirst text (before ++ readers) = readFirst text readers := by
  induction before with
  | nil => rfl
  | cons reader before ih =>
    rw [List.forall_mem_cons] at h
    rw [List.cons_append, readFirst_skip h.1, ih h.2]

theorem exists_builds {readers : List Reader} {v : Value}
    (h : readFirst text readers = .ok (some v)) : ∃ reader, Builds reader readers text v := by
  induction readers with
  | nil => cases h
  | cons first readers ih =>
    by_cases hpass : first.read text = .ok none
    · rw [readFirst_skip hpass] at h
      obtain ⟨reader, before, after, rfl, hbefore, hread⟩ := ih h
      exact ⟨reader, first :: before, after, rfl, List.forall_mem_cons.2 ⟨hpass, hbefore⟩, hread⟩
    · rw [readFirst_takes hpass] at h
      exact ⟨first, [], readers, rfl, nofun, h⟩

/-- Where at most one reader takes a text, that one reads it, wherever it stands. -/
theorem readFirst_only (honly : ∀ other : Reader, other.Takes text → other = reader)
    (readers : List Reader) :
    readFirst text readers = if reader ∈ readers then reader.read text else .ok none := by
  induction readers with
  | nil => rfl
  | cons first readers ih =>
    by_cases hpass : first.read text = .ok none
    · rw [readFirst_skip hpass, ih]
      by_cases hfirst : reader = first
      · subst hfirst
        rw [hpass, ite_self, ite_self]
      · have hmem : reader ∈ first :: readers ↔ reader ∈ readers :=
          List.mem_cons.trans (or_iff_right hfirst)
        rw [if_congr hmem rfl rfl]
    · rw [readFirst_takes hpass, honly first hpass, if_pos List.mem_cons_self]

theorem eq_regex_of_read {fault : Fault} (h : reader.read text = .error fault) : reader = regex := by
  unfold read at h
  split at h
  · cases h
  · cases reader with
    | regex => rfl
    | quoted => cases h
    | boolean => cases h
    | date => cases h
    | number => cases h

theorem mem_all (reader : Reader) : reader ∈ all := by
  cases reader <;> decide

end Reader

namespace Switches

open Reader

variable {text : String}

theorem mem_readers {s : Switches} {reader : Reader} :
    reader ∈ s.readers ↔ s.allows reader = true := by
  rw [readers, List.mem_filter, and_iff_right (mem_all reader)]

theorem mem_disabled {s : Switches} {reader : Reader} :
    reader ∈ s.disabled ↔ s.allows reader = false := by
  rw [disabled, List.mem_filter, and_iff_right (mem_all reader), Bool.not_eq_true']

theorem allows_default (reader : Reader) : ({} : Switches).allows reader = true := by
  cases reader <;> rfl

theorem coerce_only {reader : Reader}
    (honly : ∀ other : Reader, other.Takes text.toList → other = reader) (s : Switches) :
    s.coerce text =
      if s.allows reader = true then (reader.read text.toList).map (·.getD (.str text))
      else .ok (.str text) := by
  rw [coerce, readFirst_only honly, if_congr mem_readers rfl rfl]
  split <;> rfl

/-- A value other than the text itself is built by the one reader that takes the text. -/
theorem builds_of_coerce {reader : Reader}
    (honly : ∀ other : Reader, other.Takes text.toList → other = reader) {v : Value}
    (h : ({} : Switches).coerce text = .ok v) :
    v = .str text ∨ reader.Builds all text.toList v := by
  obtain ⟨found, hfound, rfl⟩ := Fallible.map_eq_ok_iff.1 h
  cases found with
  | none => exact .inl rfl
  | some v =>
    obtain ⟨other, before, after, hall, hbefore, hread⟩ := exists_builds hfound
    have hother : other = reader := honly other (takes_of_read hread)
    exact .inr ⟨before, after, by rw [← hother]; exact hall, hbefore, by rw [← hother]; exact hread⟩

/-- A reader that is switched off leaves the texts that it would read as they are, and switching it
off changes nothing else.  Hence the readers can stand in any order. -/
theorem switched_off_leaves_own_texts (htext : ¬ IsYearLine text.toList) :
    (∀ (s : Switches) (v : Value), ({} : Switches).coerce text = .ok v →
      ((∃ reader ∈ s.disabled, reader.Builds all text.toList v) → s.coerce text = .ok (.str text)) ∧
      ((¬ ∃ reader ∈ s.disabled, reader.Builds all text.toList v) → s.coerce text = .ok v)) ∧
    (∀ (s : Switches) (fault : Fault), ({} : Switches).coerce text = .error fault →
      s.coerce text = if s.regexes = true then .error fault else .ok (.str text)) ∧
    ∀ (s : Switches) (order : List Reader), order.Perm s.readers →
      readFirst text.toList order = readFirst text.toList s.readers := by
  obtain ⟨reader, honly⟩ := exists_only htext
  have hdefault := coerce_only honly {}
  rw [if_pos (allows_default reader)] at hdefault
  refine ⟨fun s v hv => ⟨?_, ?_⟩, fun s fault hfault => ?_, fun s order horder => ?_⟩
  · rintro ⟨other, hoff, -, -, -, -, hread⟩
    have hother : other = reader := honly other (takes_of_read hread)
    rw [mem_disabled, hother] at hoff
    rw [coerce_only honly, hoff]
    rfl
  · intro hon
    rw [coerce_only honly]
    split
    · rw [← hdefault, hv]
    · next hoff =>
      rw [Bool.not_eq_true, ← mem_disabled] at hoff
      rcases builds_of_coerce honly hv with rfl | hbuilds
      · rfl
      · exact absurd ⟨reader, hoff, hbuilds⟩ hon
  · rw [hdefault] at hfault
    have hread := Fallible.map_eq_error_iff.1 hfault
    rw [coerce_only honly, hfault, eq_regex_of_read hread]
    rfl
  · rw [readFirst_only honly, readFirst_only honly, if_congr horder.mem_iff rfl rfl]

theorem not_isYearLine_of_length {text : List Char} (h : text.length ≠ 5) : ¬ IsYearLine text := by
  rintro ⟨year, rfl⟩
  exact h rfl

theorem switched_off_leaves_dates :
    ({ dates := false } : Switches).coerce "2010-04-01" = .ok (.str "2010-04-01") ∧
    ({ numbers := false } : Switches).coerce "2010-04-01" =
      .ok (.date ⟨⟨2010, 4, 1⟩, 0, 0, 0, 0, some 0⟩) ∧
    readFirst "2010-04-01".toList [number, date, boolean, quoted, regex] =
      readFirst "2010-04-01".toList all ∧
    ({ regexes := false } : Switches).coerce "/(?<=a{2147483648})b/" =
      .ok (.str "/(?<=a{2147483648})b/") := by
  have hdate := @switched_off_leaves_own_texts "2010-04-01" (not_isYearLine_of_length (by decide))
  have hfault := @switched_off_leaves_own_texts "/(?<=a{2147483648})b/"
    (not_isYearLine_of_length (by decide))
  have hvalue : ({} : Switches).coerce "2010-04-01" =
      .ok (.date ⟨⟨2010, 4, 1⟩, 0, 0, 0, 0, some 0⟩) := rfl
  have hbuilds : date.Builds all "2010-04-01".toList (.date ⟨⟨2010, 4, 1⟩, 0, 0, 0, 0, some 0⟩) :=
    ⟨[regex, quoted, boolean], [number], rfl, by
      simp only [List.forall_mem_cons]
      exact ⟨rfl, rfl, rfl, nofun⟩, rfl⟩
  refine ⟨(hdate.1 _ _ hvalue).1 ⟨date, by decide, hbuilds⟩, (hdate.1 _ _ hvalue).2 ?_,
    hdate.2.2 {} _ (by decide), hfault.2.1 _ .lookBehindTooWide rfl⟩
  rintro ⟨reader, hoff, -, -, -, -, hread⟩
  obtain rfl : reader = number := by
    cases reader with
    | number => rfl
    | _ => exact absurd hoff (by decide)
  cases hread

/-- A year before a line break is left out, since two readers take it. -/
example : ({} : Switches).coerce "2016\n" = .ok (.date ⟨⟨2016, 1, 1⟩, 0, 0, 0, 0, some 0⟩) ∧
    ({ dates := false } : Switches).coerce "2016\n" = .ok (.int 2016) := ⟨rfl, rfl⟩

end Switches
end QueryCriteria
