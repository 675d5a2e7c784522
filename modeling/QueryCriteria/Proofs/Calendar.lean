import QueryCriteria.Moment

/-!
The calendar counts days without a gap: the date of the day of a date is that date, and the day of
the date of a day is that day.  So a time in universal time is found again from its instant, and
every instant of the calendar has one.
-/
namespace QueryCriteria
namespace Calendar

def yearLength (year : Nat) : Nat := if isLeap year then 366 else 365

/-! ### Months -/

/-- A day of the month at place `i` of a list of lengths. -/
theorem monthOfDay_add {lengths : List Nat} {i j : Nat} (hj : j < lengths.getD i 0) (k : Nat) :
    monthOfDay k lengths ((lengths.take i).foldr (· + ·) 0 + j) = (k + i, j + 1) := by
  induction lengths generalizing i k with
  | nil => simp at hj
  | cons length lengths ih =>
    cases i with
    | zero =>
      have hj' : j < length := by simpa using hj
      simp [monthOfDay, hj']
    | succ i =>
      have hj' : j < lengths.getD i 0 := by simpa using hj
      rw [List.take_succ_cons, List.foldr_cons, monthOfDay, if_neg (by omega)]
      have hrest : length + (lengths.take i).foldr (· + ·) 0 + j - length =
          (lengths.take i).foldr (· + ·) 0 + j := by omega
      rw [hrest, ih hj' (k + 1)]
      congr 1
      omega

theorem foldr_take_add_lt {lengths : List Nat} {i j : Nat} (hj : j < lengths.getD i 0) :
    (lengths.take i).foldr (· + ·) 0 + j < lengths.foldr (· + ·) 0 := by
  induction lengths generalizing i with
  | nil => simp at hj
  | cons length lengths ih =>
    cases i with
    | zero =>
      have hj' : j < length := by simpa using hj
      show 0 + j < length + _
      omega
    | succ i =>
      have hj' : j < lengths.getD i 0 := by simpa using hj
      have := ih hj'
      rw [List.take_succ_cons, List.foldr_cons, List.foldr_cons]
      omega

theorem foldr_monthLengths (year : Nat) : (monthLengths year).foldr (· + ·) 0 = yearLength year := by
  unfold monthLengths yearLength
  cases isLeap year <;> rfl

theorem Date.Valid.day_lt {d : Date} (h : d.Valid) :
    d.day - 1 < (monthLengths d.year).getD (d.month - 1) 0 := by
  obtain ⟨-, -, -, -, h1, h2⟩ := h
  have h3 : d.day ≤ (monthLengths d.year).getD (d.month - 1) 0 := h2
  omega

/-- The days of a year before a date are fewer than the year has. -/
theorem Date.Valid.dayInYear_lt {d : Date} (h : d.Valid) :
    daysBeforeMonth d.year d.month + (d.day - 1) < yearLength d.year := by
  rw [← foldr_monthLengths]
  exact foldr_take_add_lt h.day_lt

/-! ### Years -/

/-- The days before a year, with the year taken apart into its 400 years, its century, its
four years and the year of them. -/
theorem daysBeforeYear_eq {a b c e : Nat} (hb : b < 4) (hc : c < 25) (he : e < 4) :
    daysBeforeYear (400 * a + 100 * b + 4 * c + e + 1) =
      146097 * a + 36524 * b + 1461 * c + 365 * e := by
  unfold daysBeforeYear
  have h4 : (400 * a + 100 * b + 4 * c + e + 1 - 1) / 4 = 100 * a + 25 * b + c := by omega
  have h100 : (400 * a + 100 * b + 4 * c + e + 1 - 1) / 100 = 4 * a + b := by omega
  have h400 : (400 * a + 100 * b + 4 * c + e + 1 - 1) / 400 = a := by omega
  simp only [h4, h100, h400]
  omega

theorem isLeap_eq {a b c e : Nat} (hb : b < 4) (hc : c < 25) (he : e < 4) :
    isLeap (400 * a + 100 * b + 4 * c + e + 1) = true ↔ e = 3 ∧ (c ≠ 24 ∨ b = 3) := by
  simp only [isLeap, decide_eq_true_eq]
  omega

theorem yearOfDay_eq {a b c e r : Nat} (hb : b < 4) (hc : c < 25) (he : e < 4)
    (hr : r < 365 ∨ r = 365 ∧ e = 3 ∧ (c ≠ 24 ∨ b = 3)) :
    yearOfDay (146097 * a + 36524 * b + 1461 * c + 365 * e + r) =
      (400 * a + 100 * b + 4 * c + e + 1, r) := by
  have hmod : (146097 * a + 36524 * b + 1461 * c + 365 * e + r) % 146097 =
      36524 * b + 1461 * c + 365 * e + r := by omega
  have hdiv : (146097 * a + 36524 * b + 1461 * c + 365 * e + r) / 146097 = a := by omega
  have hcentury : min ((36524 * b + 1461 * c + 365 * e + r) / 36524) 3 = b := by omega
  have hin : 36524 * b + 1461 * c + 365 * e + r - b * 36524 = 1461 * c + 365 * e + r := by omega
  have hfours : (1461 * c + 365 * e + r) / 1461 = c := by omega
  have hfour : (1461 * c + 365 * e + r) % 1461 = 365 * e + r := by omega
  have hyear : min ((365 * e + r) / 365) 3 = e := by omega
  simp only [yearOfDay, hmod, hdiv, hcentury, hin, hfours, hfour, hyear]
  congr 1
  omega

/-- A year is its 400 years, its century, its four years and the year of them. -/
theorem exists_parts {year : Nat} (h : 1 ≤ year) :
    ∃ a b c e, b < 4 ∧ c < 25 ∧ e < 4 ∧ year = 400 * a + 100 * b + 4 * c + e + 1 :=
  ⟨(year - 1) / 400, (year - 1) % 400 / 100, (year - 1) % 100 / 4, (year - 1) % 4,
    by omega, by omega, by omega, by omega⟩

theorem yearOfDay_add {year r : Nat} (h : 1 ≤ year) (hr : r < yearLength year) :
    yearOfDay (daysBeforeYear year + r) = (year, r) := by
  obtain ⟨a, b, c, e, hb, hc, he, rfl⟩ := exists_parts h
  rw [daysBeforeYear_eq hb hc he, yearOfDay_eq hb hc he]
  unfold yearLength at hr
  split at hr
  · next hl =>
    have := (isLeap_eq hb hc he).1 hl
    omega
  · exact .inl hr

theorem daysBeforeYear_succ {year : Nat} (h : 1 ≤ year) :
    daysBeforeYear (year + 1) = daysBeforeYear year + yearLength year := by
  obtain ⟨a, b, c, e, hb, hc, he, rfl⟩ := exists_parts h
  have hl := isLeap_eq (a := a) hb hc he
  have hd := daysBeforeYear_eq (a := a) hb hc he
  rw [hd]
  simp only [daysBeforeYear, yearLength]
  split
  · next h' =>
    have := hl.1 h'
    omega
  · next h' =>
    have : ¬ (e = 3 ∧ (c ≠ 24 ∨ b = 3)) := fun hp => h' (hl.2 hp)
    omega

theorem daysBeforeYear_mono {m n : Nat} (hm : 1 ≤ m) (h : m ≤ n) :
    daysBeforeYear m ≤ daysBeforeYear n := by
  induction h with
  | refl => exact Nat.le_refl _
  | step hn ih =>
    rw [Nat.succ_eq_add_one, daysBeforeYear_succ (Nat.le_trans hm hn)]
    omega

/-! ### Dates -/

/-- A date is found again from its day. -/
theorem dateOfDay_dayOfDate {d : Date} (h : d.Valid) : dateOfDay (dayOfDate d) = d := by
  have hday : 1 ≤ d.day := h.2.2.2.2.1
  have hyear : yearOfDay (dayOfDate d) =
      (d.year, daysBeforeMonth d.year d.month + (d.day - 1)) := by
    rw [dayOfDate, Nat.add_assoc, yearOfDay_add h.1 h.dayInYear_lt]
  have hmonth : monthOfDay 1 (monthLengths d.year)
      (daysBeforeMonth d.year d.month + (d.day - 1)) = (d.month, d.day) := by
    rw [daysBeforeMonth, monthOfDay_add h.day_lt]
    have hm : 1 ≤ d.month := h.2.2.1
    congr 1 <;> omega
  rw [dateOfDay, hyear]
  simp only [hmonth]

theorem dayOfDate_lt {d : Date} (h : d.Valid) : dayOfDate d < daysBeforeYear (maxYear + 1) := by
  have hsucc := daysBeforeYear_succ h.1
  have hmono : daysBeforeYear (d.year + 1) ≤ daysBeforeYear (maxYear + 1) :=
    daysBeforeYear_mono (by omega) (Nat.succ_le_succ h.2.1)
  have := h.dayInYear_lt
  rw [dayOfDate]
  omega

/-! ### Days -/

/-- Every day has its 400 years, its century, its four years, the year of them and the days of that
year before it. -/
theorem exists_day_parts (n : Nat) :
    ∃ a b c e r, b < 4 ∧ c < 25 ∧ e < 4 ∧ (r < 365 ∨ r = 365 ∧ e = 3 ∧ (c ≠ 24 ∨ b = 3)) ∧
      n = 146097 * a + 36524 * b + 1461 * c + 365 * e + r := by
  obtain ⟨a, m, hm, hn⟩ : ∃ a m, m < 146097 ∧ n = 146097 * a + m :=
    ⟨n / 146097, n % 146097, by omega, by omega⟩
  obtain ⟨b, k, hb, hk, hbk⟩ : ∃ b k, b < 4 ∧ (k < 36524 ∨ k = 36524 ∧ b = 3) ∧ m = 36524 * b + k :=
    ⟨min (m / 36524) 3, m - 36524 * min (m / 36524) 3, by omega, by omega, by omega⟩
  obtain ⟨c, j, hj, hcj⟩ : ∃ c j, j < 1461 ∧ k = 1461 * c + j :=
    ⟨k / 1461, k % 1461, by omega, by omega⟩
  obtain ⟨e, r, he, hr, her⟩ : ∃ e r, e < 4 ∧ (r < 365 ∨ r = 365 ∧ e = 3) ∧ j = 365 * e + r :=
    ⟨min (j / 365) 3, j - 365 * min (j / 365) 3, by omega, by omega, by omega⟩
  exact ⟨a, b, c, e, r, hb, by omega, he, by omega, by omega⟩

/-- The year of a day starts before the day and ends after it. -/
theorem yearOfDay_bounds (n : Nat) :
    1 ≤ (yearOfDay n).1 ∧ (yearOfDay n).2 < yearLength (yearOfDay n).1 ∧
      daysBeforeYear (yearOfDay n).1 + (yearOfDay n).2 = n := by
  obtain ⟨a, b, c, e, r, hb, hc, he, hr, rfl⟩ := exists_day_parts n
  have hleap := isLeap_eq (a := a) hb hc he
  rw [yearOfDay_eq hb hc he hr, daysBeforeYear_eq hb hc he]
  refine ⟨Nat.le_add_left 1 _, ?_, rfl⟩
  show r < yearLength _
  unfold yearLength
  split
  · omega
  · next hcommon =>
    rcases hr with hr | ⟨-, hlast⟩
    · exact hr
    · exact absurd (hleap.2 hlast) hcommon

/-- A number below the sum of the lengths falls at a place of the list. -/
theorem exists_place {lengths : List Nat} {n : Nat} (h : n < lengths.foldr (· + ·) 0) :
    ∃ i j, j < lengths.getD i 0 ∧ n = (lengths.take i).foldr (· + ·) 0 + j := by
  induction lengths generalizing n with
  | nil => cases h
  | cons length lengths ih =>
    by_cases hfirst : n < length
    · exact ⟨0, n, hfirst, (Nat.zero_add n).symm⟩
    · rw [List.foldr_cons] at h
      obtain ⟨i, j, hj, hn⟩ := ih (n := n - length) (by omega)
      refine ⟨i + 1, j, hj, ?_⟩
      rw [List.take_succ_cons, List.foldr_cons]
      omega

theorem lt_of_lt_getD {lengths : List Nat} {i j : Nat} (h : j < lengths.getD i 0) :
    i < lengths.length := by
  rcases Nat.lt_or_ge i lengths.length with hin | hout
  · exact hin
  · rw [List.getD_eq_getElem?_getD, List.getElem?_eq_none hout] at h
    exact absurd h (Nat.not_lt_zero j)

/-- The day of the date of a day is that day, and the calendar has the date unless the day is past
its end. -/
theorem dayOfDate_dateOfDay (n : Nat) :
    dayOfDate (dateOfDay n) = n ∧ (n < daysBeforeYear (maxYear + 1) → (dateOfDay n).Valid) := by
  obtain ⟨hyear, hrest, hday⟩ := yearOfDay_bounds n
  rw [← foldr_monthLengths] at hrest
  obtain ⟨i, j, hj, hplace⟩ := exists_place hrest
  have hmonth := monthOfDay_add hj 1
  rw [← hplace] at hmonth
  have hdate : dateOfDay n = ⟨(yearOfDay n).1, 1 + i, j + 1⟩ := by
    rw [dateOfDay, hmonth]
  have hi : i < 12 := lt_of_lt_getD hj
  have hsub : 1 + i - 1 = i := by omega
  rw [hdate]
  constructor
  · show daysBeforeYear (yearOfDay n).1 +
      ((monthLengths (yearOfDay n).1).take (1 + i - 1)).foldr (· + ·) 0 + (j + 1 - 1) = n
    rw [hsub, Nat.add_sub_cancel, Nat.add_assoc, ← hplace, hday]
  · intro hn
    have hlast : (yearOfDay n).1 ≤ maxYear := by
      rcases Nat.lt_or_ge maxYear (yearOfDay n).1 with hlate | hlast
      · have hmono := daysBeforeYear_mono (m := maxYear + 1) (Nat.le_add_left 1 _) hlate
        omega
      · exact hlast
    refine ⟨hyear, hlast, Nat.le_add_right 1 i, ?_, Nat.le_add_left 1 j, ?_⟩
    · show 1 + i ≤ 12
      omega
    · show j + 1 ≤ monthLength _ (1 + i)
      rw [monthLength, hsub]
      exact hj

end Calendar

namespace Moment

open Calendar

/-- A time of day in universal time on a date that the calendar has. -/
structure IsUniversal (m : Moment) : Prop where
  date : m.date.Valid
  hour : m.hour < 24
  minute : m.minute < 60
  second : m.second < 60
  microsecond : m.microsecond < 1000000
  offset : m.offset = some 0

theorem IsUniversal.timeOfDay_lt {m : Moment} (h : m.IsUniversal) :
    m.timeOfDay < microsecondsPerDay := by
  obtain ⟨-, h1, h2, h3, h4, -⟩ := h
  unfold timeOfDay microsecondsPerDay
  omega

/-- A moment in universal time is the one at its own instant. -/
theorem utc?_of_isUniversal {m : Moment} (h : m.IsUniversal) : m.utc? = some m := by
  have htime := h.timeOfDay_lt
  have hday := dayOfDate_lt h.date
  obtain ⟨hdate, hh, hm, hs, hu, ho⟩ := h
  have hinstant : m.instant = (m.localCount : Int) := by
    rw [instant, ho]
    show (m.localCount : Int) - 0 * 60000000 = _
    omega
  have hcount : m.localCount = dayOfDate m.date * microsecondsPerDay + m.timeOfDay := rfl
  have hend : m.localCount < daysBeforeYear (maxYear + 1) * microsecondsPerDay := by
    unfold microsecondsPerDay at hcount htime ⊢
    omega
  have hrange : 0 ≤ (m.localCount : Int) ∧ (m.localCount : Int) < endOfTime := by
    refine ⟨Int.natCast_nonneg _, ?_⟩
    unfold endOfTime
    exact_mod_cast hend
  have hdiv : m.localCount / microsecondsPerDay = dayOfDate m.date := by
    unfold microsecondsPerDay at hcount htime ⊢
    omega
  have hmod : m.localCount % microsecondsPerDay = m.timeOfDay := by
    unfold microsecondsPerDay at hcount htime ⊢
    omega
  rw [utc?, hinstant, ofInstant?, if_pos hrange]
  simp only [Int.toNat_natCast, hdiv, hmod, dateOfDay_dayOfDate hdate, timeOfDay]
  have h1 : (((m.hour * 60 + m.minute) * 60 + m.second) * 1000000 + m.microsecond) / 3600000000 =
      m.hour := by omega
  have h2 : (((m.hour * 60 + m.minute) * 60 + m.second) * 1000000 + m.microsecond) / 60000000 % 60 =
      m.minute := by omega
  have h3 : (((m.hour * 60 + m.minute) * 60 + m.second) * 1000000 + m.microsecond) / 1000000 % 60 =
      m.second := by omega
  have h4 : (((m.hour * 60 + m.minute) * 60 + m.second) * 1000000 + m.microsecond) % 1000000 =
      m.microsecond := by omega
  rw [h1, h2, h3, h4, ← ho]

/-- A time of day has fewer than 24 hours, and its parts make it up. -/
theorem parts_of_timeOfDay {time : Nat} (h : time < microsecondsPerDay) :
    time / 3600000000 < 24 ∧
      ((time / 3600000000 * 60 + time / 60000000 % 60) * 60 + time / 1000000 % 60) * 1000000 +
        time % 1000000 = time := by
  unfold microsecondsPerDay at h
  omega

/-- Every instant of the calendar has a moment in universal time. -/
theorem exists_ofInstant? {n : Int} (h : 0 ≤ n ∧ n < endOfTime) :
    ∃ m, ofInstant? n = some m ∧ m.IsUniversal ∧ m.instant = n := by
  obtain ⟨k, rfl⟩ := Int.eq_ofNat_of_zero_le h.1
  have hend : k < daysBeforeYear (maxYear + 1) * microsecondsPerDay := by
    have hlt : (k : Int) < endOfTime := h.2
    unfold endOfTime at hlt
    exact_mod_cast hlt
  have hday : k / microsecondsPerDay < daysBeforeYear (maxYear + 1) :=
    Nat.div_lt_of_lt_mul (by rwa [Nat.mul_comm])
  obtain ⟨hcount, hvalid⟩ := dayOfDate_dateOfDay (k / microsecondsPerDay)
  obtain ⟨hhour, htime⟩ := parts_of_timeOfDay (Nat.mod_lt k (Nat.zero_lt_succ 86399999999))
  refine ⟨_, if_pos h, ⟨hvalid hday, hhour, Nat.mod_lt _ (Nat.zero_lt_succ 59),
    Nat.mod_lt _ (Nat.zero_lt_succ 59), Nat.mod_lt _ (Nat.zero_lt_succ 999999), rfl⟩, ?_⟩
  have hlocal : dayOfDate (dateOfDay (k / microsecondsPerDay)) * microsecondsPerDay +
      k % microsecondsPerDay = k := by
    rw [hcount, Nat.mul_comm]
    exact Nat.div_add_mod k microsecondsPerDay
  show ((dayOfDate _ * microsecondsPerDay + timeOfDay _ : Nat) : Int) - 0 * 60000000 = k
  rw [timeOfDay, Int.toNat_natCast, htime, hlocal]
  omega

end Moment
end QueryCriteria
