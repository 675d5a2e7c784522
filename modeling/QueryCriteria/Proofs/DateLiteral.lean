import QueryCriteria.Proofs.Calendar
import QueryCriteria.Proofs.DigitValue
import QueryCriteria.Proofs.IntegerLiteral

/-!
The text of a moment in universal time is a date literal that denotes the moment.
-/
namespace QueryCriteria

namespace Text

theorem digit?_digitChar {k : Nat} (h : k < 10) : digit? (Nat.digitChar k) = some k := by
  have hd : (Nat.digitChar k).isDigit = true := by
    rw [Nat.isDigit_digitChar, decide_eq_true h]
  rw [digit?_of_isDigit hd, Nat.toNat_digitChar_sub_48_of_lt_ten h]

end Text

namespace DateText

open Text Moment

theorem isDigit_digitChar {k : Nat} (h : k < 10) : isDigit (Nat.digitChar k) = true := by
  rw [isDigit, digit?_digitChar h]
  rfl

theorem length_padded (width n : Nat) : (padded width n).length = width := by
  induction width generalizing n with
  | zero => rfl
  | succ width ih => rw [padded, List.length_append, ih]; rfl

theorem isDigit_of_mem_padded {width n : Nat} {c : Char} (h : c ∈ padded width n) :
    isDigit c = true := by
  induction width generalizing n with
  | zero => cases h
  | succ width ih =>
    rw [padded, List.mem_append, List.mem_singleton] at h
    rcases h with h | rfl
    · exact ih h
    · exact isDigit_digitChar (Nat.mod_lt _ (by decide))

/-- Padded digits are read as the number, as far as the digits reach. -/
theorem number_padded (width n : Nat) : number (padded width n) = n % tenTo width := by
  induction width generalizing n with
  | zero => rw [tenTo_zero, Nat.mod_one]; rfl
  | succ width ih =>
    have hlast : [Nat.digitChar (n % 10)].filterMap digit? = [n % 10] := by
      rw [List.filterMap_cons, digit?_digitChar (Nat.mod_lt _ (by decide))]
      rfl
    have hn : number (padded width (n / 10)) = n / 10 % tenTo width := ih _
    rw [number] at hn ⊢
    rw [padded, List.filterMap_append, hlast, ofDigits_append_singleton, hn, tenTo_succ,
      Nat.mod_mul]
    omega

theorem number_padded_of_lt {width n : Nat} (h : n < tenTo width) : number (padded width n) = n := by
  rw [number_padded, Nat.mod_eq_of_lt h]

theorem padded_two (n : Nat) :
    padded 2 n = [Nat.digitChar (n / 10 % 10), Nat.digitChar (n % 10)] := rfl

theorem spanTwo?_padded {p : Char → Char → Bool} {n : Nat}
    (h : p (Nat.digitChar (n / 10 % 10)) (Nat.digitChar (n % 10)) = true) (cs : List Char) :
    spanTwo? p (padded 2 n ++ cs) = some (padded 2 n, cs) := by
  rw [padded_two]
  show (if p _ _ then _ else _) = _
  rw [if_pos h]
  rfl

theorem isMonth_padded (n : Nat) (h : n < 13) (h1 : 1 ≤ n) :
    isMonth (Nat.digitChar (n / 10 % 10)) (Nat.digitChar (n % 10)) = true := by
  revert n
  decide

theorem isDay_padded (n : Nat) (h : n < 32) (h1 : 1 ≤ n) :
    isDay (Nat.digitChar (n / 10 % 10)) (Nat.digitChar (n % 10)) = true := by
  revert n
  decide

theorem isHour_padded (n : Nat) (h : n < 24) :
    isHour (Nat.digitChar (n / 10 % 10)) (Nat.digitChar (n % 10)) = true := by
  revert n
  decide

theorem isSixtieth_padded (n : Nat) (h : n < 60) :
    isSixtieth (Nat.digitChar (n / 10 % 10)) (Nat.digitChar (n % 10)) = true := by
  revert n
  decide

theorem spanYear?_padded (n : Nat) (cs : List Char) :
    spanYear? (padded 4 n ++ cs) = some (padded 4 n, cs) := by
  have hd : ∀ k, isDigit (Nat.digitChar (k % 10)) = true :=
    fun k => isDigit_digitChar (Nat.mod_lt _ (by decide))
  show (if _ then _ else _) = _
  rw [if_pos]
  · rfl
  · rw [hd, hd, hd, hd]
    rfl

/-- The zone of universal time as it is written. -/
def universalZone : List Char := ['+', '0', '0', ':', '0', '0']

/-- The fraction of a second as it is written, which is left out when it is zero. -/
def fractionOf (microsecond : Nat) : Option (List Char) :=
  if microsecond = 0 then none else some (padded 6 microsecond)

theorem readSeconds?_padded {n : Nat} (h : n < 60) (hour minute : List Char) (microsecond : Nat) :
    readSeconds? hour minute (':' :: (padded 2 n ++
        ((if microsecond = 0 then [] else '.' :: padded 6 microsecond) ++ universalZone))) =
      some { hour, minute, second := some (padded 2 n), fraction := fractionOf microsecond,
             zone := universalZone } := by
  rw [readSeconds?, spanTwo?_padded (isSixtieth_padded n h)]
  by_cases hm : microsecond = 0
  · rw [if_pos hm, fractionOf, if_pos hm]
    rfl
  · -- the digits of the fraction end at the sign of the zone
    have htake : (padded 6 microsecond ++ universalZone).takeWhile isDigit =
        padded 6 microsecond := by
      rw [List.takeWhile_append_of_pos fun c hc => isDigit_of_mem_padded hc]
      exact List.append_nil _
    have hdrop : (padded 6 microsecond ++ universalZone).dropWhile isDigit = universalZone := by
      rw [List.dropWhile_append_of_pos fun c hc => isDigit_of_mem_padded hc]
      rfl
    have hne : padded 6 microsecond ≠ [] := by
      intro he
      have := length_padded 6 microsecond
      rw [he] at this
      cases this
    rw [if_neg hm, fractionOf, if_neg hm, List.cons_append]
    show (if _ then none else _) = _
    rw [htake, if_neg hne, hdrop]
    rfl

/-- The parts of a moment's text. -/
def ofMoment (m : Moment) : DateText where
  year := padded 4 m.date.year
  month := some (padded 2 m.date.month)
  day := some (padded 2 m.date.day)
  clock := some
    { hour := padded 2 m.hour
      minute := padded 2 m.minute
      second := some (padded 2 m.second)
      fraction := fractionOf m.microsecond
      zone := universalZone }

theorem monthLength_le (year month : Nat) : Calendar.monthLength year month ≤ 31 := by
  have hall : ∀ length ∈ Calendar.monthLengths year, length ≤ 31 := by
    unfold Calendar.monthLengths
    cases Calendar.isLeap year <;> decide
  rw [Calendar.monthLength, List.getD_eq_getElem?_getD]
  cases hm : (Calendar.monthLengths year)[month - 1]? with
  | none => exact Nat.zero_le _
  | some length => exact hall length (List.mem_of_getElem? hm)

theorem text_of_isUniversal {m : Moment} (h : m.IsUniversal) :
    m.text = padded 4 m.date.year ++ '-' :: (padded 2 m.date.month ++ '-' :: (padded 2 m.date.day ++
      'T' :: (padded 2 m.hour ++ ':' :: (padded 2 m.minute ++ ':' :: (padded 2 m.second ++
        ((if m.microsecond = 0 then [] else '.' :: padded 6 m.microsecond) ++
          universalZone)))))) := by
  rw [Moment.text, h.offset]
  simp only [List.append_assoc, List.cons_append]
  rfl

/-- The text of a moment starts with a digit. -/
theorem exists_text_eq_cons {m : Moment} (h : m.IsUniversal) :
    ∃ c cs, m.text = c :: cs ∧ c.isDigit = true := by
  rw [text_of_isUniversal h]
  refine ⟨_, _, rfl, ?_⟩
  rw [Nat.isDigit_digitChar]
  exact decide_eq_true (Nat.mod_lt _ (by decide))

theorem comma_not_mem_text {m : Moment} (h : m.IsUniversal) : ',' ∉ m.text := by
  have hpadded : ∀ width n, ',' ∉ padded width n := by
    intro width n hc
    exact absurd (isDigit_of_mem_padded hc) (by decide)
  have hfraction : ',' ∉ (if m.microsecond = 0 then [] else '.' :: padded 6 m.microsecond) := by
    split
    · simp
    · simp [hpadded]
  rw [text_of_isUniversal h]
  simp [hpadded, hfraction, universalZone]

theorem read?_text {m : Moment} (h : m.IsUniversal) : read? m.text = some (ofMoment m) := by
  have hmonth : m.date.month < 13 := Nat.lt_succ_of_le h.date.2.2.2.1
  have hday : m.date.day < 32 :=
    Nat.lt_succ_of_le (Nat.le_trans h.date.2.2.2.2.2 (monthLength_le _ _))
  rw [text_of_isUniversal h, read?, spanYear?_padded]
  show (spanTwo? isMonth _).bind _ = _
  rw [spanTwo?_padded (isMonth_padded _ hmonth h.date.2.2.1)]
  show readDay? _ _ ('-' :: _) = _
  rw [readDay?, spanTwo?_padded (isDay_padded _ hday h.date.2.2.2.2.1)]
  show (readClock? _).map _ = _
  rw [readClock?, spanTwo?_padded (isHour_padded _ h.hour)]
  show ((spanTwo? isSixtieth _).bind _).map _ = _
  rw [spanTwo?_padded (isSixtieth_padded _ h.minute), Option.bind_some]
  exact congrArg (Option.map _) (readSeconds?_padded h.second _ _ m.microsecond)

theorem microseconds_fractionOf {n : Nat} (h : n < 1000000) :
    microseconds ((fractionOf n).getD []) = n := by
  unfold fractionOf
  split
  · next h0 => rw [h0]; decide
  · show number ((padded 6 n ++ _).take 6) = n
    rw [List.take_left' (length_padded 6 n)]
    exact number_padded_of_lt h

theorem localMoment_ofMoment {m : Moment} (h : m.IsUniversal) : (ofMoment m).localMoment = m := by
  have hyear : m.date.year < tenTo 4 := Nat.lt_succ_of_le h.date.2.1
  have hmonth : m.date.month < tenTo 2 :=
    Nat.lt_of_le_of_lt h.date.2.2.2.1 (by decide)
  have hday : m.date.day < tenTo 2 :=
    Nat.lt_of_le_of_lt (Nat.le_trans h.date.2.2.2.2.2 (monthLength_le _ _)) (by decide)
  have hhour : m.hour < tenTo 2 := Nat.lt_trans h.hour (by decide)
  have hminute : m.minute < tenTo 2 := Nat.lt_trans h.minute (by decide)
  have hsecond : m.second < tenTo 2 := Nat.lt_trans h.second (by decide)
  have hoffset : offset universalZone = 0 := by decide
  obtain ⟨⟨year, month, day⟩, hour, minute, second, microsecond, zone⟩ := m
  have hzone : zone = some 0 := h.offset
  simp only [localMoment, ofMoment, partOr, Option.map_some, Option.getD_some, Option.bind_some,
    number_padded_of_lt hyear, number_padded_of_lt hmonth, number_padded_of_lt hday,
    number_padded_of_lt hhour, number_padded_of_lt hminute, number_padded_of_lt hsecond,
    microseconds_fractionOf h.microsecond, hoffset, hzone]

/-- The text of a moment in universal time denotes that moment. -/
theorem moment?_text {m : Moment} (h : m.IsUniversal) :
    (read? m.text).bind moment? = some m := by
  rw [read?_text h]
  show moment? (ofMoment m) = some m
  rw [moment?, localMoment_ofMoment h, if_pos h.date, utc?_of_isUniversal h]

end DateText
end QueryCriteria
