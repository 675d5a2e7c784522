import QueryCriteria.Proofs.DigitValue
import QueryCriteria.Proofs.TypedValue

/-!
Texts that end in a line break.  A reader reads such a text as the text before the line break, which
is then not part of the value, so that the text stays what it is exactly if no reader has a literal
there.  The guard that keeps a year from being a date counts the line break with the other
characters: four digits and a line break are a date.
-/
namespace QueryCriteria

/-- A number, whole or not. -/
inductive Value.IsNumber : Value → Prop where
  | int (n : Int) : IsNumber (.int n)
  | float (x : Binary64) : IsNumber (.float x)

theorem DateLiteral.four_le_length (d : DateLiteral) : 4 ≤ d.text.length := by
  rw [text, List.length_append]
  exact Nat.le_add_right 4 _

namespace Reader

variable {reader : Reader} {text : List Char}

theorem readWhole_date_short (h : text.length < 4) : date.readWhole text = .ok none := by
  cases hparts : DateText.read? text with
  | none => rw [readWhole, hparts]; rfl
  | some parts =>
    obtain ⟨d, rfl, -⟩ := DateLiteral.exists_text hparts
    exact absurd d.four_le_length (Nat.not_le.2 h)

/-- A text is read without the line break at its end. -/
theorem read_line (reader : Reader) (line : List Char) :
    reader.read (line ++ ['\n']) = reader.readWhole line := by
  rw [read, Text.dropFinalNewline_line]
  split
  · next hshort =>
    obtain ⟨rfl, hlength⟩ := hshort
    rw [List.length_append, List.length_singleton] at hlength
    exact (readWhole_date_short (by omega)).symm
  · rfl

theorem Gives.eq_number {v : Value} (h : Gives text reader v) (hv : v.IsNumber) :
    reader = .number := by
  cases hv <;> cases h <;> rfl

theorem Gives.eq_date {m : Moment} (h : Gives text reader (.date m)) : reader = .date := by
  cases h
  rfl

/-! ### Years -/

end Reader

/-- The start of a year in universal time. -/
def Moment.startOfYear (year : Nat) : Moment where
  date := ⟨year, 1, 1⟩
  hour := 0
  minute := 0
  second := 0
  microsecond := 0
  offset := some 0

theorem Moment.isUniversal_startOfYear {year : Nat} (h : 1 ≤ year) (h' : year ≤ Calendar.maxYear) :
    (startOfYear year).IsUniversal where
  date := ⟨h, h', Nat.le_refl 1, Nat.le_add_left 1 11, Nat.le_refl 1, Nat.le_add_left 1 30⟩
  hour := Nat.zero_lt_succ 23
  minute := Nat.zero_lt_succ 59
  second := Nat.zero_lt_succ 59
  microsecond := Nat.zero_lt_succ 999999
  offset := rfl

namespace Reader

theorem number_year_le (year : YearLiteral) : DateText.number year.text ≤ Calendar.maxYear := by
  have hlt : DateText.number year.text < tenTo 4 := DateText.number_lt year.decimal
  have hten : tenTo 4 = Calendar.maxYear + 1 := by decide
  rw [hten] at hlt
  exact Nat.le_of_lt_succ hlt

/-- Where the guard lets a year through, it is read as its first moment; there is no year 0. -/
theorem readWhole_year (year : YearLiteral) :
    date.readWhole year.text =
      .ok (if 1 ≤ DateText.number year.text then
        some (.date (.startOfYear (DateText.number year.text))) else none) := by
  have hread := DateLiteral.read?_text ⟨year, none⟩
  rw [DateLiteral.text, Option.elim_none, List.append_nil] at hread
  have hlocal : (DateLiteral.parts ⟨year, none⟩).localMoment =
      .startOfYear (DateText.number year.text) := by
    rw [DateText.localMoment, Moment.startOfYear]
    exact congrArg (fun n => Moment.mk _ _ _ _ n _) DateText.microseconds_nil
  rw [readWhole, hread, Option.bind_some, DateText.moment?, hlocal]
  by_cases hpos : 1 ≤ DateText.number year.text
  · have huniversal := Moment.isUniversal_startOfYear hpos (number_year_le year)
    rw [if_pos hpos, if_pos huniversal.date, Moment.utc?_of_isUniversal huniversal]
    rfl
  · rw [if_neg hpos, if_neg fun hvalid => hpos hvalid.1]
    rfl

end Reader

namespace Switches

open Reader

variable {s : Switches}

theorem exists_builds_of_coerce {text : List Char} {v : Value}
    (h : s.coerce (String.ofList text) = .ok v) (hv : v ≠ .str (String.ofList text)) :
    ∃ reader, Builds reader s.readers text v := by
  obtain ⟨found, hfound, rfl⟩ := Fallible.map_eq_ok_iff.1 h
  rw [String.toList_ofList] at hfound
  cases found with
  | none => exact absurd rfl hv
  | some v => exact exists_builds hfound

/-- A text that ends in a line break stays what it is exactly if no reader that is switched on has
the text before the line break for a literal. -/
theorem coerce_line_iff (s : Switches) (line : List Char) :
    s.coerce (String.ofList (line ++ ['\n'])) = .ok (.str (String.ofList (line ++ ['\n']))) ↔
      ∀ reader ∈ s.readers, reader.readWhole line = .ok none := by
  have hlines : (∀ reader ∈ s.readers, reader.readWhole line = .ok none) ↔
      readFirst (line ++ ['\n']) s.readers = .ok none := by
    rw [readFirst_eq_none_iff]
    simp only [read_line]
  rw [hlines, coerce, String.toList_ofList]
  constructor
  · intro h
    obtain ⟨found, hfound, hv⟩ := Fallible.map_eq_ok_iff.1 h
    cases found with
    | none => exact hfound
    | some v =>
      -- a literal is shorter than the text that it is read from
      obtain ⟨reader, -, -, -, -, hread⟩ := exists_builds hfound
      have hgives := (gives_of_read hread).typedFrom
      rw [show v = _ from hv, Text.dropFinalNewline_line] at hgives
      have hlength := hgives.length_le
      rw [String.toList_ofList, List.length_append, List.length_singleton] at hlength
      omega
  · intro h
    rw [h]
    rfl

theorem exists_literal_of_number {text : List Char} {v : Value} (hv : v.IsNumber)
    (h : s.coerce (String.ofList text) = .ok v) :
    ∃ literal numeral, Numeral.read? literal = some numeral ∧
      (text = literal ∨ text = literal ++ ['\n']) := by
  have hne : v ≠ .str (String.ofList text) := by
    rintro rfl
    cases hv
  obtain ⟨reader, -, -, -, -, hread⟩ := exists_builds_of_coerce h hne
  obtain rfl := (gives_of_read hread).eq_number hv
  have hread : readNumber? (Text.dropFinalNewline text) = some v := Except.ok.inj hread
  obtain ⟨numeral, hnumeral, -⟩ := Option.bind_eq_some_iff.1 hread
  exact ⟨_, numeral, hnumeral, Text.eq_dropFinalNewline text⟩

theorem coerce_year_ne_date (s : Switches) (year : YearLiteral) (m : Moment) :
    s.coerce (String.ofList year.text) ≠ .ok (.date m) := by
  intro h
  obtain ⟨reader, -, -, -, -, hread⟩ := exists_builds_of_coerce h nofun
  obtain rfl := (gives_of_read hread).eq_date
  rw [Reader.read, if_pos ⟨rfl, rfl⟩] at hread
  cases hread

/-- The readers before that of dates pass a year on. -/
theorem readFirst_year_line (s : Switches) (year : YearLiteral) :
    readFirst (year.text ++ ['\n']) s.readers =
      readFirst (year.text ++ ['\n']) ([date, number].filter s.allows) := by
  have hsplit : s.readers =
      [regex, quoted, boolean].filter s.allows ++ [date, number].filter s.allows :=
    List.filter_append [regex, quoted, boolean] [date, number]
  rw [hsplit]
  refine readFirst_append (fun reader hreader => ?_) _
  have hearlier := (List.mem_filter.1 hreader).1
  by_contra htakes
  rcases date_or_number_of_takes htakes with rfl | rfl
  · exact absurd hearlier (by decide)
  · exact absurd hearlier (by decide)

theorem exists_date_year_line_iff (s : Switches) (year : YearLiteral) :
    (∃ m, s.coerce (String.ofList (year.text ++ ['\n'])) = .ok (.date m)) ↔
      s.dates = true ∧ 1 ≤ DateText.number year.text := by
  have hread := (read_line .date year.text).trans (readWhole_year year)
  constructor
  · rintro ⟨m, h⟩
    obtain ⟨reader, before, after, hreaders, -, hm⟩ := exists_builds_of_coerce h nofun
    obtain rfl := (gives_of_read hm).eq_date
    have hon : Reader.date ∈ s.readers := by
      rw [hreaders]
      exact List.mem_append_right _ List.mem_cons_self
    refine ⟨mem_readers.1 hon, ?_⟩
    by_contra hzero
    rw [hread, if_neg hzero] at hm
    cases hm
  · rintro ⟨hon, hpos⟩
    rw [if_pos hpos] at hread
    have hallows : s.allows .date = true := hon
    refine ⟨.startOfYear (DateText.number year.text), ?_⟩
    rw [coerce, String.toList_ofList, readFirst_year_line, List.filter_cons_of_pos hallows,
      readFirst_take hread]
    rfl

/-- A line break at the end of a text is lost exactly if a reader has a literal before it.  Numbers
are read from whole literals but for such a line break, and a year is a date exactly if there is
one. -/
theorem final_newline_kept_iff (s : Switches) :
    (∀ line : List Char,
      s.coerce (String.ofList (line ++ ['\n'])) = .ok (.str (String.ofList (line ++ ['\n']))) ↔
        ∀ reader ∈ s.readers, reader.readWhole line = .ok none) ∧
    (∀ (text : List Char) (v : Value), v.IsNumber → s.coerce (String.ofList text) = .ok v →
      ∃ literal numeral, Numeral.read? literal = some numeral ∧
        (text = literal ∨ text = literal ++ ['\n'])) ∧
    ∀ year : YearLiteral, (∀ m, s.coerce (String.ofList year.text) ≠ .ok (.date m)) ∧
      ((∃ m, s.coerce (String.ofList (year.text ++ ['\n'])) = .ok (.date m)) ↔
        s.dates = true ∧ 1 ≤ DateText.number year.text) := by
  refine ⟨coerce_line_iff s, fun text v hv h => exists_literal_of_number hv h, fun year => ?_⟩
  exact ⟨coerce_year_ne_date s year, exists_date_year_line_iff s year⟩

theorem final_newline_kept_word :
    ({} : Switches).coerce (String.ofList ['a', '\n']) = .ok (.str (String.ofList ['a', '\n'])) ∧
    (∃ literal numeral, Numeral.read? literal = some numeral ∧
      (['1', '0', '\n'] = literal ∨ ['1', '0', '\n'] = literal ++ ['\n'])) ∧
    ∃ m, ({} : Switches).coerce (String.ofList ['2', '0', '1', '6', '\n']) = .ok (.date m) := by
  obtain ⟨hlines, hnumbers, hyears⟩ := final_newline_kept_iff {}
  refine ⟨(hlines ['a']).2 fun reader _ => ?_, hnumbers _ (.int 10) (.int 10) rfl, ?_⟩
  · cases reader <;> rfl
  · exact (hyears ⟨'2', '0', '1', '6', rfl⟩).2.2 ⟨rfl, by decide⟩

/-- The number before a line break is read as if it were the whole text, and so is the year. -/
theorem final_newline_lost :
    ({} : Switches).coerce "10\n" = .ok (.int 10) ∧ Numeral.read? "10\n".toList = none ∧
    ({} : Switches).coerce "2016\n" = .ok (.date (.startOfYear 2016)) ∧
    ¬ ∀ (s : Switches) (line : List Char),
      s.coerce (String.ofList (line ++ ['\n'])) = .ok (.str (String.ofList (line ++ ['\n']))) := by
  refine ⟨rfl, rfl, rfl, fun h => ?_⟩
  have hnumber : ({} : Switches).coerce (String.ofList ['1', '0', '\n']) = .ok (.int 10) := rfl
  have hkept := h {} ['1', '0']
  rw [show ['1', '0'] ++ ['\n'] = ['1', '0', '\n'] from rfl, hnumber] at hkept
  cases hkept

end Switches
end QueryCriteria
