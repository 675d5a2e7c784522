import Mathlib.Algebra.BigOperators.Intervals
import Mathlib.Tactic.Ring
import QueryCriteria.Proofs.DigitValue
import QueryCriteria.Proofs.DisjointReaders

/-!
Date literals denote instants.  The instant of a literal is counted here from the start of year 1:
year by year, month by month, and less the minutes that its zone is ahead.  A literal with a month
is typed as the moment in universal time with that count, provided that the calendar has its date
and the moment; otherwise it stays a text.
-/
namespace QueryCriteria

open scoped BigOperators

/-! ### Counting days -/

namespace Calendar

/-- The days from the start of year 1 to a date. -/
def Date.daysBefore (d : Date) : Nat :=
  ∑ year ∈ Finset.Ico 1 d.year, yearLength year +
    ∑ month ∈ Finset.Ico 1 d.month, monthLength d.year month + (d.day - 1)

theorem daysBeforeYear_eq_sum {year : Nat} (h : 1 ≤ year) :
    daysBeforeYear year = ∑ earlier ∈ Finset.Ico 1 year, yearLength earlier := by
  induction year, h using Nat.le_induction with
  | base => rfl
  | succ year h ih => rw [daysBeforeYear_succ h, ih, Finset.sum_Ico_succ_top h]

theorem foldr_take_succ (lengths : List Nat) (i : Nat) :
    (lengths.take (i + 1)).foldr (· + ·) 0 =
      (lengths.take i).foldr (· + ·) 0 + lengths.getD i 0 := by
  induction lengths generalizing i with
  | nil => simp
  | cons length lengths ih =>
    cases i with
    | zero => simp
    | succ i =>
      rw [List.take_succ_cons, List.foldr_cons, ih, List.take_succ_cons, List.foldr_cons,
        List.getD_cons_succ, Nat.add_assoc]

theorem daysBeforeMonth_eq_sum (year : Nat) {month : Nat} (h : 1 ≤ month) :
    daysBeforeMonth year month = ∑ earlier ∈ Finset.Ico 1 month, monthLength year earlier := by
  induction month, h using Nat.le_induction with
  | base => rfl
  | succ month h ih =>
    have hsucc : month + 1 - 1 = month - 1 + 1 := by omega
    rw [Finset.sum_Ico_succ_top h, ← ih, daysBeforeMonth, hsucc, foldr_take_succ]
    rfl

theorem dayOfDate_eq {d : Date} (h : d.Valid) : dayOfDate d = d.daysBefore := by
  rw [dayOfDate, daysBeforeYear_eq_sum h.1, daysBeforeMonth_eq_sum _ h.2.2.1]
  rfl

end Calendar

open Calendar

/-! ### Counting microseconds -/

namespace Moment

/-- The microseconds from the start of year 1 in universal time. -/
def elapsed (m : Moment) : Int :=
  (((m.date.daysBefore * 24 + m.hour) * 60 + m.minute) * 60 + m.second) * 1000000 +
    m.microsecond - m.offset.getD 0 * 60000000

/-- The first count past the last year. -/
def endOfCalendar : Int := (∑ year ∈ Finset.Ico 1 (maxYear + 1), yearLength year) * 86400000000

theorem endOfTime_eq : endOfTime = endOfCalendar := by
  rw [endOfTime, endOfCalendar, daysBeforeYear_eq_sum (Nat.le_add_left 1 maxYear)]
  rfl

theorem instant_eq {m : Moment} (h : m.date.Valid) : m.instant = m.elapsed := by
  rw [instant, elapsed, localCount, timeOfDay, dayOfDate_eq h]
  unfold microsecondsPerDay
  push_cast
  omega

/-- There is one moment in universal time with a count. -/
theorem IsUniversal.eq_of_elapsed {m other : Moment} (hm : m.IsUniversal) (ho : other.IsUniversal)
    (h : m.elapsed = other.elapsed) : m = other := by
  have hsame : m.utc? = other.utc? := by
    rw [utc?, utc?, instant_eq hm.date, instant_eq ho.date, h]
  rw [utc?_of_isUniversal hm, utc?_of_isUniversal ho] at hsame
  exact Option.some.inj hsame

end Moment

def TwoDigits.value {p : Char → Char → Bool} (n : TwoDigits p) : Nat := DateText.number n.text

/-- The minutes ahead of universal time. -/
def ZoneLiteral.minutes : ZoneLiteral → Int
  | universal => 0
  | shifted behind _ hour minute => Numeral.withSign behind (hour.value * 60 + minute.value)

/-- The fraction of a second in whole microseconds. -/
def DigitRun.microseconds (run : DigitRun) : Nat :=
  DateText.number run.digits * 1000000 / 10 ^ run.digits.length

def SecondLiteral.microseconds (s : SecondLiteral) : Nat :=
  s.second.value * 1000000 + s.fraction.elim 0 DigitRun.microseconds

/-- The microseconds from the start of the day in universal time, which can be negative. -/
def ClockLiteral.microseconds (c : ClockLiteral) : Int :=
  (c.hour.value * 60 + c.minute.value) * 60000000 + c.second.elim 0 SecondLiteral.microseconds -
    c.zone.minutes * 60000000

namespace DateLiteral

/-- The date that is written; the first month or day where none is. -/
def date (d : DateLiteral) : Date where
  year := DateText.number d.year.text
  month := d.month.elim 1 (·.month.value)
  day := d.day.elim 1 (·.day.value)

/-- The microseconds from the start of year 1 to the instant that the literal names. -/
def elapsed (d : DateLiteral) : Int :=
  d.date.daysBefore * 86400000000 + d.clock.elim 0 ClockLiteral.microseconds

/-- The calendar has the date, and the instant is in one of its years. -/
structure InCalendar (d : DateLiteral) : Prop where
  date : d.date.Valid
  start : 0 ≤ d.elapsed
  stop : d.elapsed < Moment.endOfCalendar

/-- The literal makes up the text, but for a line break that may follow it. -/
def Writes (d : DateLiteral) (text : List Char) : Prop := text = d.text ∨ text = d.text ++ ['\n']

end DateLiteral

/-! ### Parts -/

/-- The first six digits of a fraction count its whole microseconds. -/
theorem DigitRun.microseconds_eq (run : DigitRun) :
    DateText.microseconds run.digits = run.microseconds := by
  have hzeros : ∀ c ∈ List.replicate 6 '0', DateText.isDigit c = true := by
    intro c hc
    rw [List.eq_of_mem_replicate hc]
    rfl
  have hall : ∀ c ∈ run.digits ++ List.replicate 6 '0', DateText.isDigit c = true := by
    intro c hc
    exact (List.mem_append.1 hc).elim (run.decimal c) (hzeros c)
  have hten : tenTo ((List.replicate 6 '0').filterMap Text.digit?).length = 1000000 := by decide
  have hnumber : DateText.number (run.digits ++ List.replicate 6 '0') =
      DateText.number run.digits * 1000000 := by
    rw [DateText.number_append, hten, show DateText.number (List.replicate 6 '0') = 0 by decide,
      Nat.add_zero]
  have hlength : (run.digits ++ List.replicate 6 '0').length - 6 = run.digits.length := by
    rw [List.length_append, List.length_replicate, Nat.add_sub_cancel]
  have hpow : tenTo run.digits.length = 10 ^ run.digits.length := rfl
  rw [DateText.microseconds, DateText.number_take hall, hnumber, hlength, hpow, microseconds]

theorem TwoDigits.filter_colon {p : Char → Char → Bool} (hp : Decimal p) (n : TwoDigits p) :
    n.text.filter (· ≠ ':') = n.text := by
  refine List.filter_eq_self.2 fun c hc => decide_eq_true ?_
  rintro rfl
  exact n.not_mem_text hp isDigit_colon hc

theorem ZoneLiteral.zoneMinutes_text (colon : Bool) (hour : TwoDigits DateText.isHour)
    (minute : TwoDigits DateText.isSixtieth) :
    DateText.offset.zoneMinutes
      (hour.text ++ ((if colon = true then [':'] else []) ++ minute.text)) =
        hour.value * 60 + minute.value := by
  have hcolon : (if colon = true then [':'] else []).filter (· ≠ ':') = [] := by
    cases colon <;> rfl
  rw [DateText.offset.zoneMinutes, List.filter_append, List.filter_append, hcolon,
    hour.filter_colon decimal_isHour, minute.filter_colon decimal_isSixtieth, List.nil_append]
  rfl

theorem ZoneLiteral.offset_text (z : ZoneLiteral) : DateText.offset z.text = z.minutes := by
  cases z with
  | universal => rfl
  | shifted behind colon hour minute =>
    have hminutes := zoneMinutes_text colon hour minute
    cases behind with
    | true => exact congrArg (-·) hminutes
    | false => exact hminutes

/-- Seconds that are not written are none, and so is their fraction. -/
theorem ClockLiteral.second_parts (c : ClockLiteral) :
    DateText.partOr 0 c.parts.second * 1000000 + DateText.microseconds (c.parts.fraction.getD []) =
      c.second.elim 0 SecondLiteral.microseconds := by
  rw [parts]
  cases c.second with
  | none =>
    have hnone : DateText.partOr 0 none = 0 := rfl
    rw [Option.map_none, Option.bind_none, Option.getD_none, Option.elim_none,
      DateText.microseconds_nil, hnone, Nat.zero_mul]
  | some second =>
    have hsecond : DateText.partOr 0 (some second.second.text) = second.second.value := rfl
    rw [Option.map_some, Option.bind_some, Option.elim_some, SecondLiteral.microseconds, hsecond]
    cases second.fraction with
    | none =>
      rw [Option.map_none, Option.getD_none, Option.elim_none, DateText.microseconds_nil]
    | some run => rw [Option.map_some, Option.getD_some, Option.elim_some, run.microseconds_eq]

theorem ClockLiteral.microseconds_eq (c : ClockLiteral) :
    c.microseconds =
      (((DateText.number c.parts.hour * 60 + DateText.number c.parts.minute) * 60 +
        DateText.partOr 0 c.parts.second) * 1000000 +
        DateText.microseconds (c.parts.fraction.getD []) : Nat) -
      DateText.offset c.parts.zone * 60000000 := by
  have hsecond := c.second_parts
  have hzone : DateText.offset c.parts.zone = c.zone.minutes := c.zone.offset_text
  have hhour : DateText.number c.parts.hour = c.hour.value := rfl
  have hminute : DateText.number c.parts.minute = c.minute.value := rfl
  rw [microseconds, hzone, hhour, hminute, ← hsecond]
  push_cast
  ring

namespace DateLiteral

theorem date_parts (d : DateLiteral) : d.parts.localMoment.date = d.date := by
  obtain ⟨year, _ | month⟩ := d
  · rfl
  · obtain ⟨month, _ | day⟩ := month
    · rfl
    · rfl

theorem instant_parts {d : DateLiteral} (h : d.date.Valid) :
    d.parts.localMoment.instant = d.elapsed := by
  have hdate := date_parts d
  have hclock : d.parts.clock = d.clock.map ClockLiteral.parts := rfl
  rw [Moment.instant_eq (by rw [hdate]; exact h), Moment.elapsed, hdate, elapsed]
  unfold DateText.localMoment
  rw [hclock]
  cases d.clock with
  | none =>
    simp only [Option.map_none, Option.bind_none, Option.getD_none, DateText.partOr,
      DateText.microseconds_nil, Option.getD_some, Option.elim_none]
    push_cast
    ring
  | some clock =>
    show _ = _ + clock.microseconds
    rw [clock.microseconds_eq]
    simp only [Option.map_some, Option.bind_some, Option.getD_some, DateText.partOr]
    push_cast
    ring

theorem moment?_parts (d : DateLiteral) :
    d.parts.moment? = if d.date.Valid then Moment.ofInstant? d.elapsed else none := by
  rw [DateText.moment?, date_parts]
  split
  · next hvalid => rw [Moment.utc?, instant_parts hvalid]
  · rfl

theorem inCalendar_iff {d : DateLiteral} :
    d.InCalendar ↔ d.date.Valid ∧ 0 ≤ d.elapsed ∧ d.elapsed < Moment.endOfTime := by
  rw [Moment.endOfTime_eq]
  exact ⟨fun h => ⟨h.date, h.start, h.stop⟩, fun ⟨hdate, hstart, hstop⟩ => ⟨hdate, hstart, hstop⟩⟩

theorem exists_moment_of_inCalendar {d : DateLiteral} (h : d.InCalendar) :
    ∃ m, d.parts.moment? = some m ∧ m.IsUniversal ∧ m.elapsed = d.elapsed := by
  obtain ⟨hvalid, hrange⟩ := inCalendar_iff.1 h
  obtain ⟨m, hm, huniversal, hinstant⟩ := Moment.exists_ofInstant? hrange
  rw [Moment.instant_eq huniversal.date] at hinstant
  exact ⟨m, by rw [moment?_parts, if_pos hvalid, hm], huniversal, hinstant⟩

theorem moment?_of_not_inCalendar {d : DateLiteral} (h : ¬ d.InCalendar) : d.parts.moment? = none := by
  rw [moment?_parts]
  split
  · next hvalid => exact if_neg fun hrange => h (inCalendar_iff.2 ⟨hvalid, hrange⟩)
  · rfl

/-! ### Texts of literals -/

section Writes

variable {d : DateLiteral} {text : List Char}

theorem Writes.dropFinalNewline (h : d.Writes text) : Text.dropFinalNewline text = d.text := by
  rcases h with rfl | rfl
  · exact Text.dropFinalNewline_of_not_mem d.newline_not_mem
  · exact Text.dropFinalNewline_line d.text

theorem Writes.isPrefix (h : d.Writes text) : d.text <+: text := by
  rcases h with rfl | rfl
  · exact List.prefix_rfl
  · exact List.prefix_append _ _

/-- The reader of dates goes past the year exactly in the texts of literals with a month. -/
theorem exists_writes_iff :
    (∃ parts, DateText.read? (Text.dropFinalNewline text) = some parts ∧ parts.month ≠ none) ↔
      ∃ d : DateLiteral, d.month ≠ none ∧ d.Writes text := by
  have hmonth : ∀ d : DateLiteral, d.parts.month ≠ none ↔ d.month ≠ none :=
    fun d => not_congr Option.map_eq_none_iff
  constructor
  · rintro ⟨parts, hparts, hne⟩
    obtain ⟨d, htext, rfl⟩ := read?_eq_some_iff.1 hparts
    refine ⟨d, (hmonth d).1 hne, ?_⟩
    rw [Writes, htext]
    exact Text.eq_dropFinalNewline text
  · rintro ⟨d, hne, hwrites⟩
    exact ⟨d.parts, read?_eq_some_iff.2 ⟨d, hwrites.dropFinalNewline.symm, rfl⟩, (hmonth d).2 hne⟩

/-- Past its year a literal is longer than the guard allows a number to be. -/
theorem four_lt_length (hmonth : d.month ≠ none) : 4 < d.text.length := by
  obtain ⟨month, hmonth⟩ := Option.ne_none_iff_exists'.1 hmonth
  rw [DateLiteral.text, hmonth, List.length_append]
  exact Nat.lt_add_of_pos_right (Nat.zero_lt_succ _)

theorem read_writes (hmonth : d.month ≠ none) (h : d.Writes text) :
    Reader.date.read text = .ok (d.parts.moment?.map Value.date) := by
  have hlength : text.length ≠ 4 := by
    have := four_lt_length hmonth
    have := h.isPrefix.length_le
    omega
  rw [Reader.read, if_neg fun hshort => hlength hshort.2, h.dropFinalNewline, Reader.readWhole,
    read?_text]
  rfl

/-- No other reader takes the text of a literal with a month. -/
theorem only_date (hmonth : d.month ≠ none) (h : d.Writes text) :
    ∀ other : Reader, other.Takes text → other = .date := by
  intro other htakes
  obtain ⟨month, hmonth⟩ := Option.ne_none_iff_exists'.1 hmonth
  obtain ⟨rest, htext⟩ : d.year.text <+: text := (List.prefix_append _ _).trans h.isPrefix
  rw [← htext] at htakes
  rcases Reader.date_or_number_of_takes htakes with hdate | rfl
  · exact hdate
  · obtain ⟨hread, -⟩ := Reader.readWhole_of_takes htakes
    rw [htext, h.dropFinalNewline, DateLiteral.text, hmonth] at hread
    exact absurd (congrArg Except.ok (Reader.readNumber?_month d.year month)) hread

end Writes

/-! ### Turns of the year -/

/-- Half an hour after a full hour. -/
def halfPast (year : YearLiteral) (month : TwoDigits DateText.isMonth)
    (day : TwoDigits DateText.isDay) (hour : TwoDigits DateText.isHour) (zone : ZoneLiteral) :
    DateLiteral where
  year := year
  month := some ⟨month, some ⟨day, some ⟨hour, ⟨'3', '0', rfl⟩, none, zone⟩⟩⟩

def newYear : DateLiteral :=
  halfPast ⟨'2', '0', '1', '0', rfl⟩ ⟨'0', '1', rfl⟩ ⟨'0', '1', rfl⟩ ⟨'0', '0', rfl⟩
    (.shifted false true ⟨'0', '1', rfl⟩ ⟨'0', '0', rfl⟩)

def newYearElsewhere : DateLiteral :=
  halfPast ⟨'2', '0', '0', '9', rfl⟩ ⟨'1', '2', rfl⟩ ⟨'3', '1', rfl⟩ ⟨'2', '3', rfl⟩ .universal

def afterLastYear : DateLiteral :=
  halfPast ⟨'9', '9', '9', '9', rfl⟩ ⟨'1', '2', rfl⟩ ⟨'3', '1', rfl⟩ ⟨'2', '3', rfl⟩
    (.shifted true true ⟨'0', '0', rfl⟩ ⟨'3', '0', rfl⟩)

end DateLiteral

namespace Switches

open DateLiteral

variable {d : DateLiteral} {text : List Char}

theorem coerce_writes (hmonth : d.month ≠ none) (h : d.Writes text) :
    ({} : Switches).coerce (String.ofList text) =
      .ok ((d.parts.moment?.map Value.date).getD (.str (String.ofList text))) := by
  have honly := only_date hmonth h
  rw [← @String.toList_ofList text] at honly
  rw [coerce_only honly, if_pos (allows_default .date), String.toList_ofList, read_writes hmonth h]
  rfl

/-- A literal with a month is typed as the moment in universal time that it names, whatever zone it
is written in, and as a text where the calendar does not have its date or its moment. -/
theorem month_literal_denotes_instant :
    (∀ text : List Char,
      (∃ parts, DateText.read? (Text.dropFinalNewline text) = some parts ∧ parts.month ≠ none) ↔
        ∃ d : DateLiteral, d.month ≠ none ∧ d.Writes text) ∧
    (∀ (d : DateLiteral) (text : List Char), d.month ≠ none → d.Writes text →
      (d.InCalendar → ∃ m : Moment,
        ({} : Switches).coerce (String.ofList text) = .ok (.date m) ∧ m.IsUniversal ∧
          m.elapsed = d.elapsed ∧
          ∀ other : Moment, other.IsUniversal → other.elapsed = d.elapsed → other = m) ∧
      (¬ d.InCalendar →
        ({} : Switches).coerce (String.ofList text) = .ok (.str (String.ofList text)))) ∧
    ∀ (d d' : DateLiteral) (text text' : List Char), d.month ≠ none → d'.month ≠ none →
      d.Writes text → d'.Writes text' → d.InCalendar → d'.InCalendar → d.elapsed = d'.elapsed →
        ({} : Switches).coerce (String.ofList text) =
          ({} : Switches).coerce (String.ofList text') := by
  refine ⟨fun text => exists_writes_iff, fun d text hmonth hwrites => ⟨fun hin => ?_, fun hout => ?_⟩,
    fun d d' text text' hmonth hmonth' hwrites hwrites' hin hin' helapsed => ?_⟩
  · obtain ⟨m, hm, huniversal, hcount⟩ := exists_moment_of_inCalendar hin
    refine ⟨m, ?_, huniversal, hcount, fun other hother hsame => ?_⟩
    · rw [coerce_writes hmonth hwrites, hm]
      rfl
    · exact hother.eq_of_elapsed huniversal (hsame.trans hcount.symm)
  · rw [coerce_writes hmonth hwrites, moment?_of_not_inCalendar hout]
    rfl
  · obtain ⟨m, hm, -⟩ := exists_moment_of_inCalendar hin
    have hsame : d'.parts.moment? = d.parts.moment? := by
      rw [moment?_parts, moment?_parts, if_pos hin.date, if_pos hin'.date, helapsed]
    rw [coerce_writes hmonth hwrites, coerce_writes hmonth' hwrites', hsame, hm]
    rfl

theorem new_year_denotes_instant :
    (∃ m : Moment, ({} : Switches).coerce "2010-01-01T00:30+01:00" = .ok (.date m) ∧
      m.IsUniversal ∧ m.elapsed = newYear.elapsed) ∧
    ({} : Switches).coerce "2010-01-01T00:30+01:00" =
      ({} : Switches).coerce "2009-12-31T23:30Z" ∧
    ({} : Switches).coerce "9999-12-31T23:30-00:30" = .ok (.str "9999-12-31T23:30-00:30") := by
  obtain ⟨-, hmoment, hsame⟩ := month_literal_denotes_instant
  have hhere : newYear.date.Valid := by decide
  have hthere : newYearElsewhere.date.Valid := by decide
  have hlate : afterLastYear.date.Valid := by decide
  have hcount : newYear.elapsed = newYearElsewhere.elapsed := by
    rw [← instant_parts hhere, ← instant_parts hthere]
    decide
  have hin : newYear.InCalendar :=
    inCalendar_iff.2 ⟨hhere, by rw [← instant_parts hhere]; decide⟩
  have hin' : newYearElsewhere.InCalendar :=
    inCalendar_iff.2 ⟨hthere, by rw [← instant_parts hthere]; decide⟩
  have hout : ¬ afterLastYear.InCalendar := by
    rw [inCalendar_iff, ← instant_parts hlate]
    decide
  obtain ⟨m, hm, huniversal, helapsed, -⟩ := (hmoment newYear _ nofun (.inl rfl)).1 hin
  exact ⟨⟨m, hm, huniversal, helapsed⟩,
    hsame newYear newYearElsewhere _ _ nofun nofun (.inl rfl) (.inl rfl) hin hin' hcount,
    (hmoment afterLastYear _ nofun (.inl rfl)).2 hout⟩

end Switches

end QueryCriteria
