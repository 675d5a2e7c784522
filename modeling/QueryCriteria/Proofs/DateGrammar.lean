import Mathlib.Data.List.TakeWhile
import QueryCriteria.Literal.Date
import QueryCriteria.Proofs.IntegerLiteral
import QueryCriteria.Proofs.Segment

/-!
The grammar of date literals.  A literal is a year, with a month if there is more, with a day if
there is more, and so on: its parts carry the digits that they are written with, so that every
`DateLiteral` is one.  The reader of dates accepts exactly their texts.
-/
namespace QueryCriteria

open DateText

/-- A number of two digits, the first and the second of which are of the class. -/
structure TwoDigits (p : Char → Char → Bool) where
  tens : Char
  units : Char
  valid : p tens units = true

/-- One digit or more. -/
structure DigitRun where
  digits : List Char
  nonempty : digits ≠ []
  decimal : ∀ c ∈ digits, isDigit c = true

structure YearLiteral where
  thousands : Char
  hundreds : Char
  tens : Char
  units : Char
  valid : (isDigit thousands && isDigit hundreds && isDigit tens && isDigit units) = true

inductive ZoneLiteral where
  | universal
  | shifted (behind colon : Bool) (hour : TwoDigits isHour) (minute : TwoDigits isSixtieth)

structure SecondLiteral where
  second : TwoDigits isSixtieth
  fraction : Option DigitRun

structure ClockLiteral where
  hour : TwoDigits isHour
  minute : TwoDigits isSixtieth
  second : Option SecondLiteral
  zone : ZoneLiteral

structure DayLiteral where
  day : TwoDigits isDay
  clock : Option ClockLiteral

structure MonthLiteral where
  month : TwoDigits isMonth
  day : Option DayLiteral

structure DateLiteral where
  year : YearLiteral
  month : Option MonthLiteral

/-! ### Texts -/

def YearLiteral.text (y : YearLiteral) : List Char := [y.thousands, y.hundreds, y.tens, y.units]

def TwoDigits.text {p : Char → Char → Bool} (n : TwoDigits p) : List Char := [n.tens, n.units]

namespace ZoneLiteral

def sign (behind : Bool) : Char := if behind then '-' else '+'

def text : ZoneLiteral → List Char
  | universal => ['Z']
  | shifted behind colon hour minute =>
    sign behind :: (hour.text ++ ((if colon then [':'] else []) ++ minute.text))

end ZoneLiteral

namespace SecondLiteral

def fractionText (s : SecondLiteral) : List Char := s.fraction.elim [] fun run => '.' :: run.digits

def text (s : SecondLiteral) : List Char := ':' :: (s.second.text ++ s.fractionText)

end SecondLiteral

def ClockLiteral.text (c : ClockLiteral) : List Char :=
  c.hour.text ++ ':' :: (c.minute.text ++ (c.second.elim [] SecondLiteral.text ++ c.zone.text))

def DayLiteral.text (d : DayLiteral) : List Char :=
  '-' :: (d.day.text ++ d.clock.elim [] fun clock => 'T' :: clock.text)

def MonthLiteral.text (m : MonthLiteral) : List Char :=
  '-' :: (m.month.text ++ m.day.elim [] DayLiteral.text)

def DateLiteral.text (d : DateLiteral) : List Char :=
  d.year.text ++ d.month.elim [] MonthLiteral.text

/-! ### Parts -/

def ClockLiteral.parts (c : ClockLiteral) : ClockText where
  hour := c.hour.text
  minute := c.minute.text
  second := c.second.map (·.second.text)
  fraction := c.second.bind fun second => second.fraction.map (·.digits)
  zone := c.zone.text

namespace DateLiteral

def day (d : DateLiteral) : Option DayLiteral := d.month.bind (·.day)

def clock (d : DateLiteral) : Option ClockLiteral := d.day.bind (·.clock)

/-- What the reader makes of a literal. -/
def parts (d : DateLiteral) : DateText where
  year := d.year.text
  month := d.month.map (·.month.text)
  day := d.day.map (·.day.text)
  clock := d.clock.map (·.parts)

end DateLiteral

/-! ### Digits -/

section Digits

variable {p : Char → Char → Bool} {cs found rest : List Char}

theorem spanTwo?_text (n : TwoDigits p) (rest : List Char) :
    spanTwo? p (n.text ++ rest) = some (n.text, rest) :=
  if_pos n.valid

theorem exists_spanTwo? (h : spanTwo? p cs = some (found, rest)) :
    ∃ n : TwoDigits p, found = n.text ∧ cs = n.text ++ rest := by
  unfold spanTwo? at h
  split at h
  · next a b after =>
    split at h
    · next hvalid =>
      obtain ⟨rfl, rfl⟩ := Prod.mk.inj (Option.some.inj h)
      exact ⟨⟨a, b, hvalid⟩, rfl, rfl⟩
    · cases h
  · cases h

theorem spanYear?_text (year : YearLiteral) (rest : List Char) :
    spanYear? (year.text ++ rest) = some (year.text, rest) :=
  if_pos year.valid

theorem YearLiteral.decimal (year : YearLiteral) : ∀ c ∈ year.text, isDigit c = true := by
  have hvalid := year.valid
  simp only [Bool.and_eq_true] at hvalid
  obtain ⟨⟨⟨hthousands, hhundreds⟩, htens⟩, hunits⟩ := hvalid
  simp only [YearLiteral.text, List.forall_mem_cons]
  exact ⟨hthousands, hhundreds, htens, hunits, nofun⟩

theorem exists_spanYear? (h : spanYear? cs = some (found, rest)) :
    ∃ year : YearLiteral, found = year.text ∧ cs = year.text ++ rest := by
  unfold spanYear? at h
  split at h
  · next a b c d after =>
    split at h
    · next hvalid =>
      obtain ⟨rfl, rfl⟩ := Prod.mk.inj (Option.some.inj h)
      exact ⟨⟨a, b, c, d, hvalid⟩, rfl, rfl⟩
    · cases h
  · cases h

end Digits

/-! ### Characters -/

theorem isDigit_of_range {c : Char} (h : '0' ≤ c) (h' : c ≤ '9') : isDigit c = true := by
  have hc : c.isDigit = true := by
    rw [Char.isDigit_iff_toNat]
    exact ⟨Char.le_def.1 h, Char.le_def.1 h'⟩
  rw [isDigit, Text.digit?_of_isDigit hc]
  rfl

theorem ne_of_isDigit {c d : Char} (hc : isDigit c = true) (hd : isDigit d = false) : c ≠ d := by
  rintro rfl
  rw [hc] at hd
  cases hd

theorem isDigit_colon : isDigit ':' = false := rfl

theorem isDigit_newline : isDigit '\n' = false := rfl

/-- Both characters of a class are digits. -/
def Decimal (p : Char → Char → Bool) : Prop :=
  ∀ a b, p a b = true → isDigit a = true ∧ isDigit b = true

theorem decimal_isMonth : Decimal isMonth := by
  intro a b h
  simp only [isMonth, Bool.or_eq_true, Bool.and_eq_true, beq_iff_eq, decide_eq_true_eq] at h
  rcases h with ⟨⟨rfl, hlow⟩, hhigh⟩ | ⟨⟨rfl, hlow⟩, hhigh⟩
  · exact ⟨rfl, isDigit_of_range (Char.le_trans (by decide) hlow) hhigh⟩
  · exact ⟨rfl, isDigit_of_range hlow (Char.le_trans hhigh (by decide))⟩

theorem decimal_isDay : Decimal isDay := by
  intro a b h
  simp only [isDay, Bool.or_eq_true, Bool.and_eq_true, beq_iff_eq, decide_eq_true_eq] at h
  rcases h with (⟨⟨rfl, hlow⟩, hhigh⟩ | ⟨rfl | rfl, hb⟩) | ⟨rfl, rfl | rfl⟩
  · exact ⟨rfl, isDigit_of_range (Char.le_trans (by decide) hlow) hhigh⟩
  · exact ⟨rfl, hb⟩
  · exact ⟨rfl, hb⟩
  · exact ⟨rfl, rfl⟩
  · exact ⟨rfl, rfl⟩

theorem decimal_isHour : Decimal isHour := by
  intro a b h
  simp only [isHour, Bool.or_eq_true, Bool.and_eq_true, beq_iff_eq, decide_eq_true_eq] at h
  rcases h with ⟨rfl | rfl, hb⟩ | ⟨⟨rfl, hlow⟩, hhigh⟩
  · exact ⟨rfl, hb⟩
  · exact ⟨rfl, hb⟩
  · exact ⟨rfl, isDigit_of_range hlow (Char.le_trans hhigh (by decide))⟩

theorem decimal_isSixtieth : Decimal isSixtieth := by
  intro a b h
  simp only [isSixtieth, Bool.and_eq_true, decide_eq_true_eq] at h
  exact ⟨isDigit_of_range h.1.1 (Char.le_trans h.1.2 (by decide)), h.2⟩

theorem TwoDigits.not_mem_text {p : Char → Char → Bool} (hp : Decimal p) (n : TwoDigits p) {c : Char}
    (hc : isDigit c = false) : c ∉ n.text := by
  obtain ⟨htens, hunits⟩ := hp _ _ n.valid
  rw [TwoDigits.text, List.mem_cons, List.mem_singleton, not_or]
  exact ⟨(ne_of_isDigit htens hc).symm, (ne_of_isDigit hunits hc).symm⟩

/-! ### Zones -/

theorem ZoneLiteral.sign_eq (behind : Bool) : sign behind = '+' ∨ sign behind = '-' := by
  cases behind
  · exact .inl rfl
  · exact .inr rfl

theorem spanTwo?_all {p : Char → Char → Bool} (n : TwoDigits p) :
    spanTwo? p n.text = some (n.text, []) := by
  have hspan := spanTwo?_text n []
  rwa [List.append_nil] at hspan

theorem readZone?_text (z : ZoneLiteral) : readZone? z.text = some z.text := by
  cases z with
  | universal => rfl
  | shifted behind colon hour minute =>
    rw [ZoneLiteral.text, readZone?, if_pos (ZoneLiteral.sign_eq behind), spanTwo?_text,
      Option.bind_some]
    · cases colon with
      | true =>
        simp only [if_true, List.cons_append, List.nil_append, spanTwo?_all]
      | false =>
        have hne := ne_of_isDigit (decimal_isSixtieth _ _ minute.valid).1 isDigit_colon
        simp only [Bool.false_eq_true, if_false, List.nil_append]
        split
        · next heq => exact absurd (List.cons.inj heq).1 hne
        · rw [spanTwo?_all]
    · rintro - hnil
      cases hnil

theorem ZoneLiteral.head_eq (z : ZoneLiteral) :
    ∀ c ∈ z.text.head?, c = 'Z' ∨ c = '+' ∨ c = '-' := by
  intro c hc
  cases z with
  | universal => exact .inl (Option.some.inj hc).symm
  | shifted behind colon hour minute =>
    rw [← Option.some.inj hc]
    exact .inr (sign_eq behind)

/-- No zone starts with a mark that stands between other parts. -/
theorem ZoneLiteral.text_ne_cons (z : ZoneLiteral) {c : Char} (hc : c = ':' ∨ c = '.')
    (cs : List Char) : z.text ≠ c :: cs := by
  intro htext
  have hhead := z.head_eq c (by rw [htext]; rfl)
  rcases hc with rfl | rfl <;> exact absurd hhead (by decide)

/-- Where a zone starts, a fraction ends. -/
theorem ZoneLiteral.not_isDigit_head (z : ZoneLiteral) :
    ∀ c ∈ z.text.head?, isDigit c = false := by
  intro c hc
  rcases z.head_eq c hc with rfl | rfl | rfl <;> decide

theorem exists_readZone? {cs zone : List Char} (h : readZone? cs = some zone) :
    ∃ z : ZoneLiteral, z.text = cs ∧ zone = cs := by
  unfold readZone? at h
  split at h
  · obtain rfl := Option.some.inj h
    exact ⟨.universal, rfl, rfl⟩
  · next sign cs _ =>
    split at h
    · next hsign =>
      obtain ⟨behind, rfl⟩ : ∃ behind, sign = ZoneLiteral.sign behind := by
        rcases hsign with rfl | rfl
        · exact ⟨false, rfl⟩
        · exact ⟨true, rfl⟩
      obtain ⟨⟨hour, rest⟩, hhour, hminute⟩ := Option.bind_eq_some_iff.1 h
      obtain ⟨hour, rfl, rfl⟩ := exists_spanTwo? hhour
      dsimp only at hminute
      split at hminute
      · next cs =>
        split at hminute
        · next minute hspan =>
          obtain rfl := Option.some.inj hminute
          obtain ⟨minute, rfl, rfl⟩ := exists_spanTwo? hspan
          refine ⟨.shifted behind true hour minute, ?_, ?_⟩
          · simp [ZoneLiteral.text]
          · simp
        · cases hminute
      · next cs =>
        split at hminute
        · next minute hspan =>
          obtain rfl := Option.some.inj hminute
          obtain ⟨minute, rfl, rfl⟩ := exists_spanTwo? hspan
          refine ⟨.shifted behind false hour minute, ?_, ?_⟩
          · simp [ZoneLiteral.text]
          · simp
        · cases hminute
    · cases h
  · cases h

/-! ### Times of day -/

theorem readSeconds?_text (hour minute : List Char) (second : Option SecondLiteral)
    (zone : ZoneLiteral) :
    readSeconds? hour minute (second.elim [] SecondLiteral.text ++ zone.text) =
      some { hour, minute, second := second.map (·.second.text),
             fraction := second.bind fun second => second.fraction.map (·.digits),
             zone := zone.text } := by
  cases second with
  | none =>
    rw [Option.elim_none, List.nil_append, readSeconds?, readZone?_text]
    · rfl
    · exact fun cs => zone.text_ne_cons (.inl rfl) cs
  | some second =>
    obtain ⟨second, fraction⟩ := second
    rw [Option.elim_some, SecondLiteral.text, SecondLiteral.fractionText, List.cons_append,
      List.append_assoc, readSeconds?, spanTwo?_text, Option.bind_some]
    cases fraction with
    | none =>
      simp only [Option.elim_none, List.nil_append]
      split
      · next heq => exact absurd heq (zone.text_ne_cons (.inr rfl) _)
      · rw [readZone?_text]
        rfl
    | some run =>
      have htake := Text.takeWhile_run run.decimal zone.not_isDigit_head
      have hdrop := Text.dropWhile_run run.decimal zone.not_isDigit_head
      simp only [Option.elim_some, List.cons_append]
      rw [htake, hdrop, if_neg run.nonempty, readZone?_text]
      rfl

theorem exists_readSeconds? {hour minute cs : List Char} {c : ClockText}
    (h : readSeconds? hour minute cs = some c) :
    ∃ (second : Option SecondLiteral) (zone : ZoneLiteral),
      cs = second.elim [] SecondLiteral.text ++ zone.text := by
  unfold readSeconds? at h
  split at h
  · obtain ⟨⟨second, rest⟩, hsecond, hrest⟩ := Option.bind_eq_some_iff.1 h
    obtain ⟨second, rfl, rfl⟩ := exists_spanTwo? hsecond
    dsimp only at hrest
    split at hrest
    · next cs =>
      split at hrest
      · cases hrest
      · next hne =>
        obtain ⟨zone, hzone, -⟩ := Option.map_eq_some_iff.1 hrest
        obtain ⟨zone, hdrop, -⟩ := exists_readZone? hzone
        have hdigits : ∀ d ∈ cs.takeWhile isDigit, isDigit d = true :=
          fun d hd => List.mem_takeWhile_imp hd
        refine ⟨some ⟨second, some ⟨cs.takeWhile isDigit, hne, hdigits⟩⟩, zone, ?_⟩
        simp [SecondLiteral.text, SecondLiteral.fractionText, hdrop]
    · obtain ⟨zone, hzone, -⟩ := Option.map_eq_some_iff.1 hrest
      obtain ⟨zone, rfl, -⟩ := exists_readZone? hzone
      exact ⟨some ⟨second, none⟩, zone, by simp [SecondLiteral.text, SecondLiteral.fractionText]⟩
  · obtain ⟨zone, hzone, -⟩ := Option.map_eq_some_iff.1 h
    obtain ⟨zone, rfl, -⟩ := exists_readZone? hzone
    exact ⟨none, zone, rfl⟩

theorem readClock?_text (c : ClockLiteral) : readClock? c.text = some c.parts := by
  rw [ClockLiteral.text, readClock?, spanTwo?_text, Option.bind_some]
  show (spanTwo? isSixtieth (c.minute.text ++ _)).bind _ = _
  rw [spanTwo?_text, Option.bind_some]
  exact readSeconds?_text c.hour.text c.minute.text c.second c.zone

theorem exists_readClock? {cs : List Char} {c : ClockText} (h : readClock? cs = some c) :
    ∃ lit : ClockLiteral, lit.text = cs := by
  obtain ⟨⟨hour, rest⟩, hhour, hrest⟩ := Option.bind_eq_some_iff.1 h
  obtain ⟨hour, rfl, rfl⟩ := exists_spanTwo? hhour
  dsimp only at hrest
  split at hrest
  · obtain ⟨⟨minute, after⟩, hminute, hafter⟩ := Option.bind_eq_some_iff.1 hrest
    obtain ⟨minute, rfl, rfl⟩ := exists_spanTwo? hminute
    obtain ⟨second, zone, rfl⟩ := exists_readSeconds? hafter
    exact ⟨⟨hour, minute, second, zone⟩, rfl⟩
  · cases hrest

/-! ### Dates -/

theorem readDay?_text (year month : List Char) (day : Option DayLiteral) :
    readDay? year month (day.elim [] DayLiteral.text) =
      some { year, month := some month, day := day.map (·.day.text),
             clock := (day.bind (·.clock)).map (·.parts) } := by
  cases day with
  | none => rfl
  | some day =>
    obtain ⟨day, clock⟩ := day
    rw [Option.elim_some, DayLiteral.text, readDay?, spanTwo?_text, Option.bind_some]
    cases clock with
    | none => rfl
    | some clock =>
      show (readClock? clock.text).map _ = _
      rw [readClock?_text]
      rfl

theorem exists_readDay? {year month cs : List Char} {d : DateText}
    (h : readDay? year month cs = some d) :
    ∃ day : Option DayLiteral, day.elim [] DayLiteral.text = cs := by
  unfold readDay? at h
  split at h
  · exact ⟨none, rfl⟩
  · obtain ⟨⟨day, rest⟩, hday, hrest⟩ := Option.bind_eq_some_iff.1 h
    obtain ⟨day, rfl, rfl⟩ := exists_spanTwo? hday
    dsimp only at hrest
    split at hrest
    · exact ⟨some ⟨day, none⟩, by simp [DayLiteral.text]⟩
    · obtain ⟨clock, hclock, -⟩ := Option.map_eq_some_iff.1 hrest
      obtain ⟨clock, rfl⟩ := exists_readClock? hclock
      exact ⟨some ⟨day, some clock⟩, rfl⟩
    · cases hrest
  · cases h

namespace DateLiteral

theorem read?_text (d : DateLiteral) : read? d.text = some d.parts := by
  obtain ⟨year, month⟩ := d
  rw [text, read?, spanYear?_text, Option.bind_some]
  cases month with
  | none => rfl
  | some month =>
    show (spanTwo? isMonth (month.month.text ++ _)).bind _ = _
    rw [spanTwo?_text, Option.bind_some]
    exact readDay?_text year.text month.month.text month.day

theorem exists_text {text : List Char} {parts : DateText} (h : DateText.read? text = some parts) :
    ∃ d : DateLiteral, d.text = text ∧ d.parts = parts := by
  obtain ⟨d, hd⟩ : ∃ d : DateLiteral, d.text = text := by
    obtain ⟨⟨year, rest⟩, hyear, hrest⟩ := Option.bind_eq_some_iff.1 h
    obtain ⟨year, rfl, rfl⟩ := exists_spanYear? hyear
    dsimp only at hrest
    split at hrest
    · exact ⟨⟨year, none⟩, rfl⟩
    · obtain ⟨⟨month, after⟩, hmonth, hafter⟩ := Option.bind_eq_some_iff.1 hrest
      obtain ⟨month, rfl, rfl⟩ := exists_spanTwo? hmonth
      obtain ⟨day, rfl⟩ := exists_readDay? hafter
      exact ⟨⟨year, some ⟨month, day⟩⟩, rfl⟩
    · cases hrest
  -- the reader is a function, so that the parts are those of the literal
  refine ⟨d, hd, ?_⟩
  rw [← hd, read?_text] at h
  exact Option.some.inj h

/-- The reader of dates accepts exactly the texts of date literals. -/
theorem read?_eq_some_iff {text : List Char} {parts : DateText} :
    DateText.read? text = some parts ↔ ∃ d : DateLiteral, d.text = text ∧ d.parts = parts := by
  constructor
  · exact exists_text
  · rintro ⟨d, rfl, rfl⟩
    exact d.read?_text

end DateLiteral

/-! ### Line breaks -/

theorem ZoneLiteral.newline_not_mem (z : ZoneLiteral) : '\n' ∉ z.text := by
  cases z with
  | universal => decide
  | shifted behind colon hour minute =>
    have hhour := hour.not_mem_text decimal_isHour isDigit_newline
    have hminute := minute.not_mem_text decimal_isSixtieth isDigit_newline
    cases behind <;> cases colon <;> simp [text, sign, hhour, hminute]

theorem SecondLiteral.newline_not_mem (s : SecondLiteral) : '\n' ∉ s.text := by
  have hsecond := s.second.not_mem_text decimal_isSixtieth isDigit_newline
  have hfraction : '\n' ∉ s.fractionText := by
    rw [fractionText]
    cases s.fraction with
    | none => decide
    | some run =>
      intro hmem
      rcases List.mem_cons.1 hmem with hpoint | hdigit
      · exact absurd hpoint (by decide)
      · exact absurd (run.decimal _ hdigit) (by rw [isDigit_newline]; decide)
  simp [text, hsecond, hfraction]

theorem ClockLiteral.newline_not_mem (c : ClockLiteral) : '\n' ∉ c.text := by
  have hhour := c.hour.not_mem_text decimal_isHour isDigit_newline
  have hminute := c.minute.not_mem_text decimal_isSixtieth isDigit_newline
  have hsecond : '\n' ∉ c.second.elim [] SecondLiteral.text := by
    cases c.second with
    | none => exact List.not_mem_nil
    | some second => exact second.newline_not_mem
  simp [text, hhour, hminute, hsecond, c.zone.newline_not_mem]

theorem DayLiteral.newline_not_mem (d : DayLiteral) : '\n' ∉ d.text := by
  have hday := d.day.not_mem_text decimal_isDay isDigit_newline
  have hclock : '\n' ∉ d.clock.elim [] fun clock => 'T' :: clock.text := by
    cases d.clock with
    | none => exact List.not_mem_nil
    | some clock => simp [clock.newline_not_mem]
  simp [text, hday, hclock]

theorem MonthLiteral.newline_not_mem (m : MonthLiteral) : '\n' ∉ m.text := by
  have hmonth := m.month.not_mem_text decimal_isMonth isDigit_newline
  have hday : '\n' ∉ m.day.elim [] DayLiteral.text := by
    cases m.day with
    | none => exact List.not_mem_nil
    | some day => exact day.newline_not_mem
  simp [text, hmonth, hday]

theorem DateLiteral.newline_not_mem (d : DateLiteral) : '\n' ∉ d.text := by
  have hmonth : '\n' ∉ d.month.elim [] MonthLiteral.text := by
    cases d.month with
    | none => exact List.not_mem_nil
    | some month => exact month.newline_not_mem
  intro hmem
  rcases List.mem_append.1 hmem with hyear | hrest
  · exact absurd (d.year.decimal _ hyear) (by rw [isDigit_newline]; decide)
  · exact hmonth hrest

end QueryCriteria
