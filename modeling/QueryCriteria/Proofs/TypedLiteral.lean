import QueryCriteria.Coercion
import QueryCriteria.Proofs.DateLiteral
import QueryCriteria.Proofs.DelimitedLiteral
import QueryCriteria.Proofs.Segment

/-!
Literals of each kind have the value that they are written for.  Of the readers that come
before the right one, none can read the literal, since its first character rules them out.
-/
namespace QueryCriteria

namespace Text

theorem dropFinalNewline_append (cs : List Char) {c : Char} (h : c ≠ '\n') :
    dropFinalNewline (cs ++ [c]) = cs ++ [c] := by
  rcases eq_dropFinalNewline (cs ++ [c]) with hkept | hline
  · exact hkept.symm
  · exact absurd (List.cons.inj (List.append_inj_right' hline rfl)).1 h

theorem dropFinalNewline_of_not_mem {cs : List Char} (h : '\n' ∉ cs) : dropFinalNewline cs = cs := by
  rcases eq_dropFinalNewline cs with hkept | hline
  · exact hkept.symm
  · rw [hline] at h
    exact absurd (List.mem_append_right _ List.mem_cons_self) h

end Text

namespace Reader

theorem readFirst_skip {text : List Char} {reader : Reader} (h : reader.read text = .ok none)
    (readers : List Reader) : readFirst text (reader :: readers) = readFirst text readers := by
  rw [readFirst, h]

theorem readFirst_take {text : List Char} {reader : Reader} {v : Value}
    (h : reader.read text = .ok (some v)) (readers : List Reader) :
    readFirst text (reader :: readers) = .ok (some v) := by
  rw [readFirst, h]

/-! ### What a first character rules out -/

theorem readRegex_cons {c : Char} (h : c ≠ '/') (cs : List Char) :
    readRegex (c :: cs) = .ok none := by
  have hnone : Literal.readRegex? (c :: cs) = none := by
    rw [Literal.readRegex?]
    rintro rest ⟨⟩
    exact h rfl
  rw [readRegex, hnone]

theorem readQuoted?_cons {c : Char} (hd : c ≠ '"') (hs : c ≠ '\'') (cs : List Char) :
    Literal.readQuoted? (c :: cs) = none := by
  rw [Literal.readQuoted?, if_neg (not_or.2 ⟨hd, hs⟩)]

theorem readBoolean?_cons {c : Char} (ht : c ≠ 't') (hf : c ≠ 'f') (cs : List Char) :
    readBoolean? (c :: cs) = none := by
  rw [readBoolean?, if_neg, if_neg]
  · rintro ⟨⟩
    exact hf rfl
  · rintro ⟨⟩
    exact ht rfl

/-- A text that starts with a digit or a minus sign is a date, a number or only a text. -/
theorem readFirst_numeric {text : List Char} (hnl : Text.dropFinalNewline text = text) {c : Char}
    {cs : List Char} (htext : text = c :: cs) (hc : c = '-' ∨ c.isDigit = true) :
    readFirst text all = readFirst text [date, number] := by
  have hne : ∀ d : Char, d ≠ '-' → d.isDigit = false → c ≠ d :=
    fun _ => Text.ne_of_minus_or_digit hc
  have hregex : regex.read text = .ok none := by
    show readRegex (Text.dropFinalNewline text) = _
    rw [hnl, htext, readRegex_cons (hne _ (by decide) (by decide))]
  have hquoted : quoted.read text = .ok none := by
    show Except.ok ((Literal.readQuoted? (Text.dropFinalNewline text)).map _) = _
    rw [hnl, htext, readQuoted?_cons (hne _ (by decide) (by decide)) (hne _ (by decide) (by decide))]
    rfl
  have hboolean : boolean.read text = .ok none := by
    show Except.ok (readBoolean? (Text.dropFinalNewline text)) = _
    rw [hnl, htext,
      readBoolean?_cons (hne _ (by decide) (by decide)) (hne _ (by decide) (by decide))]
  rw [all, readFirst_skip hregex, readFirst_skip hquoted, readFirst_skip hboolean]

end Reader

namespace DateText

theorem spanYear?_cons {c : Char} (h : isDigit c = false) (cs : List Char) :
    spanYear? (c :: cs) = none := by
  rcases cs with _ | ⟨_, _ | ⟨_, _ | ⟨_, _⟩⟩⟩
  · rfl
  · rfl
  · rfl
  · rw [spanYear?, h]
    rfl

/-- A character that is no digit ends the year too early. -/
theorem spanYear?_of_short {c : Char} (h : isDigit c = false) {before : List Char}
    (hb : before.length < 4) (cs : List Char) : spanYear? (before ++ c :: cs) = none := by
  rcases before with _ | ⟨_, _ | ⟨_, _ | ⟨_, _ | ⟨_, _⟩⟩⟩⟩
  · exact spanYear?_cons h cs
  · rcases cs with _ | ⟨_, _ | ⟨_, _⟩⟩
    · rfl
    · rfl
    · simp [spanYear?, h]
  · rcases cs with _ | ⟨_, _⟩
    · rfl
    · simp [spanYear?, h]
  · simp [spanYear?, h]
  · simp only [List.length_cons] at hb
    omega

/-- A text that goes on after its year goes on with a minus sign. -/
theorem read?_of_spanYear? {text year : List Char} {c : Char} {cs : List Char}
    (h : spanYear? text = some (year, c :: cs)) (hc : c ≠ '-') : read? text = none := by
  rw [read?, h, Option.bind_some]
  dsimp only
  split
  · next heq => cases heq
  · next heq =>
    injection heq with heq
    exact absurd heq hc
  · rfl

theorem read?_year (a b c d : Char) {e : Char} (he : e ≠ '-') (cs : List Char) :
    read? (a :: b :: c :: d :: e :: cs) = none := by
  by_cases h : (isDigit a && isDigit b && isDigit c && isDigit d) = true
  · exact read?_of_spanYear? (if_pos h) he
  · rw [read?, spanYear?, if_neg h]
    rfl

/-- Digits alone are a date only if there are four of them. -/
theorem read?_integer {n : IntegerLiteral} (h : n.text.length ≠ 4) : read? n.text = none := by
  by_cases hn : n.negative = true
  · rw [IntegerLiteral.text, if_pos hn, read?, spanYear?_cons (by decide)]
    rfl
  · rw [IntegerLiteral.text, if_neg hn] at h ⊢
    rcases hds : n.digits with _ | ⟨a, _ | ⟨b, _ | ⟨c, _ | ⟨d, _ | ⟨e, ds⟩⟩⟩⟩⟩
    · rfl
    · rfl
    · rfl
    · rfl
    · rw [hds] at h
      exact absurd rfl h
    · have he : e.isDigit = true := n.decimal e (by rw [hds]; simp)
      exact read?_year a b c d (Text.ne_minus_of_isDigit he) ds

theorem year_or_none (n : IntegerLiteral) : n.text.length = 4 ∨ read? n.text = none := by
  by_cases h : n.text.length = 4
  · exact .inl h
  · exact .inr (read?_integer h)

/-- Where a literal goes on with a mark, the whole text is no date. -/
theorem read?_append {n : IntegerLiteral} {mark : Char} (hm : mark = ',' ∨ mark = '=')
    (cs : List Char) : read? (n.text ++ mark :: cs) = none := by
  have hdigit : isDigit mark = false := by
    rcases hm with rfl | rfl <;> decide
  have hminus : mark ≠ '-' := by
    rcases hm with rfl | rfl <;> decide
  by_cases hn : n.negative = true
  · rw [IntegerLiteral.text, if_pos hn, List.cons_append, read?, spanYear?_cons (by decide)]
    rfl
  · rw [IntegerLiteral.text, if_neg hn]
    rcases hds : n.digits with _ | ⟨a, _ | ⟨b, _ | ⟨c, _ | ⟨d, _ | ⟨e, ds⟩⟩⟩⟩⟩
    · rw [List.nil_append, read?, spanYear?_cons hdigit]
      rfl
    · rw [read?, spanYear?_of_short hdigit (by simp)]
      rfl
    · rw [read?, spanYear?_of_short hdigit (by simp)]
      rfl
    · rw [read?, spanYear?_of_short hdigit (by simp)]
      rfl
    · exact read?_year a b c d hminus cs
    · have he : e.isDigit = true := n.decimal e (by rw [hds]; simp)
      exact read?_year a b c d (Text.ne_minus_of_isDigit he) _

end DateText

namespace Switches

/-- The coercion with nothing switched off. -/
theorem coerce_default (text : List Char) :
    ({} : Switches).coerce (String.ofList text) =
      (Reader.readFirst text Reader.all).map (·.getD (.str (String.ofList text))) := by
  rw [coerce, String.toList_ofList]
  rfl

theorem token_unmarked {s : Switches} {text : List Char} (h : ∀ c ∈ text.head?, c ≠ '!') :
    s.token (String.ofList text) =
      (s.coerce (String.ofList text)).map fun value => { negated := false, value } := by
  unfold token
  rw [String.toList_ofList]
  split
  · exact absurd rfl (h '!' rfl)
  · rfl

theorem token_marked (s : Switches) (text : List Char) :
    s.token (String.ofList ('!' :: text)) =
      (s.coerce (String.ofList text)).map fun value => { negated := true, value } := by
  unfold token
  rw [String.toList_ofList]
  rfl

/-! ### The five kinds -/

theorem coerce_true : ({} : Switches).coerce (String.ofList ['t', 'r', 'u', 'e']) =
    .ok (.bool true) := by
  rw [coerce_default]
  rfl

theorem coerce_false : ({} : Switches).coerce (String.ofList ['f', 'a', 'l', 's', 'e']) =
    .ok (.bool false) := by
  rw [coerce_default]
  rfl

theorem read_date_none {text : List Char} (hnl : Text.dropFinalNewline text = text)
    (h : text.length = 4 ∨ DateText.read? text = none) : Reader.date.read text = .ok none := by
  rcases h with h | h
  · rw [Reader.read, if_pos ⟨rfl, h⟩]
  · rw [Reader.read, hnl]
    split
    · rfl
    · show Except.ok (((DateText.read? text).bind _).map _) = _
      rw [h]
      rfl

/-- A text that starts like a number but is neither a date nor a number stays a text. -/
theorem coerce_none {text : List Char} (hnl : '\n' ∉ text) {c : Char} {cs : List Char}
    (htext : text = c :: cs) (hc : c = '-' ∨ c.isDigit = true)
    (hdate : text.length = 4 ∨ DateText.read? text = none)
    (hnumber : Reader.readNumber? text = none) :
    ({} : Switches).coerce (String.ofList text) = .ok (.str (String.ofList text)) := by
  have hdrop := Text.dropFinalNewline_of_not_mem hnl
  have hreadNumber : Reader.number.read text = .ok none := by
    show Except.ok (Reader.readNumber? (Text.dropFinalNewline text)) = _
    rw [hdrop, hnumber]
  rw [coerce_default, Reader.readFirst_numeric hdrop htext hc, Reader.readFirst_skip (read_date_none hdrop hdate),
    Reader.readFirst_skip hreadNumber]
  rfl

theorem coerce_integer {n : IntegerLiteral} (h : n.isShort = true) :
    ({} : Switches).coerce (String.ofList n.text) = .ok (.int n.value) := by
  have hnl : Text.dropFinalNewline n.text = n.text :=
    Text.dropFinalNewline_of_not_mem (n.not_mem_text (by decide) (by decide))
  obtain ⟨c, cs, htext, hc⟩ := n.exists_text_eq_cons
  have hnumber : Reader.number.read n.text = .ok (some (.int n.value)) := by
    show Except.ok (Reader.readNumber? (Text.dropFinalNewline n.text)) = _
    rw [hnl, Reader.readNumber?, n.read?_text, Option.bind_some, if_pos (by rfl),
      n.toInt?_numeral, if_pos h]
    rfl
  rw [coerce_default, Reader.readFirst_numeric hnl htext hc,
    Reader.readFirst_skip (read_date_none hnl (DateText.year_or_none n)),
    Reader.readFirst_take hnumber]
  rfl

/-- An integer with too many digits stays a text. -/
theorem coerce_long {n : IntegerLiteral} (h : n.isShort = false) :
    ({} : Switches).coerce (String.ofList n.text) = .ok (.str (String.ofList n.text)) := by
  obtain ⟨c, cs, htext, hc⟩ := n.exists_text_eq_cons
  refine coerce_none (n.not_mem_text (by decide) (by decide)) htext hc
    (DateText.year_or_none n) ?_
  rw [Reader.readNumber?, n.read?_text, Option.bind_some, if_pos (by rfl), n.toInt?_numeral,
    if_neg (by rw [h]; decide)]
  rfl

/-- An integer that goes on with a mark stays a text. -/
theorem coerce_append {n : IntegerLiteral} {mark : Char} (hm : mark = ',' ∨ mark = '=')
    {cs : List Char} (hcs : '\n' ∉ cs) :
    ({} : Switches).coerce (String.ofList (n.text ++ mark :: cs)) =
      .ok (.str (String.ofList (n.text ++ mark :: cs))) := by
  obtain ⟨c, ds, htext, hc⟩ := n.exists_text_eq_cons
  have hnl : '\n' ∉ n.text ++ mark :: cs := by
    have hmark : '\n' ≠ mark := by
      rcases hm with rfl | rfl <;> decide
    rw [List.mem_append, List.mem_cons, not_or, not_or]
    exact ⟨n.not_mem_text (by decide) (by decide), hmark, hcs⟩
  have hcons : n.text ++ mark :: cs = c :: (ds ++ mark :: cs) := by
    rw [htext]
    rfl
  refine coerce_none hnl hcons hc (.inr (DateText.read?_append hm cs)) ?_
  rw [Reader.readNumber?, n.read?_append hm]
  rfl

theorem coerce_moment {m : Moment} (h : m.IsUniversal) :
    ({} : Switches).coerce (String.ofList m.text) = .ok (.date m) := by
  have hlast : ∀ cs : List Char,
      cs ++ Moment.offsetText 0 = (cs ++ ['+', '0', '0', ':', '0']) ++ ['0'] := by
    intro cs
    rw [List.append_assoc]
    rfl
  have hnl : Text.dropFinalNewline m.text = m.text := by
    rw [Moment.text, h.offset]
    show Text.dropFinalNewline (_ ++ Moment.offsetText 0) = _ ++ Moment.offsetText 0
    rw [hlast, Text.dropFinalNewline_append _ (by decide)]
  obtain ⟨c, cs, htext, hc⟩ := DateText.exists_text_eq_cons h
  have hlength : m.text.length ≠ 4 := by
    rw [DateText.text_of_isUniversal h]
    simp only [List.length_append, List.length_cons, DateText.length_padded]
    omega
  have hdate : Reader.date.read m.text = .ok (some (.date m)) := by
    rw [Reader.read, if_neg (fun h' => hlength h'.2), hnl]
    show Except.ok (((DateText.read? m.text).bind _).map _) = _
    rw [DateText.moment?_text h]
    rfl
  rw [coerce_default, Reader.readFirst_numeric hnl htext (.inr hc), Reader.readFirst_take hdate]
  rfl

theorem coerce_enquoted {quote : Char} (h : quote = '"' ∨ quote = '\'') (cs : List Char) :
    ({} : Switches).coerce (String.ofList (Literal.enquoted quote cs)) =
      .ok (.str (String.ofList cs)) := by
  have hnl : Text.dropFinalNewline (Literal.enquoted quote cs) = Literal.enquoted quote cs := by
    refine Text.dropFinalNewline_append (quote :: Literal.escaped quote cs) ?_
    rcases h with rfl | rfl <;> decide
  have hslash : quote ≠ '/' := by
    rcases h with rfl | rfl <;> decide
  have hregex : Reader.regex.read (Literal.enquoted quote cs) = .ok none := by
    show Reader.readRegex (Text.dropFinalNewline _) = _
    rw [hnl, Literal.enquoted, Reader.readRegex_cons hslash]
  have hquoted : Reader.quoted.read (Literal.enquoted quote cs) =
      .ok (some (.str (String.ofList cs))) := by
    show Except.ok ((Literal.readQuoted? (Text.dropFinalNewline _)).map _) = _
    rw [hnl, Literal.readQuoted?_enquoted h]
    rfl
  rw [coerce_default, Reader.all, Reader.readFirst_skip hregex, Reader.readFirst_take hquoted]
  rfl

theorem coerce_slashed {pattern : List Char} {ignoreCase : Bool} {r : Regex}
    (h : Regex.compile pattern ignoreCase = .ok (some r)) :
    ({} : Switches).coerce (String.ofList (Literal.slashed pattern ignoreCase)) =
      .ok (.regex r) := by
  have hnl : Text.dropFinalNewline (Literal.slashed pattern ignoreCase) =
      Literal.slashed pattern ignoreCase := by
    cases ignoreCase with
    | false => exact Text.dropFinalNewline_append ('/' :: pattern) (by decide)
    | true =>
      have hlast : Literal.slashed pattern true = ('/' :: (pattern ++ ['/'])) ++ ['i'] := by
        simp [Literal.slashed]
      rw [hlast, Text.dropFinalNewline_append _ (by decide)]
  have hregex : Reader.regex.read (Literal.slashed pattern ignoreCase) =
      .ok (some (.regex r)) := by
    show Reader.readRegex (Text.dropFinalNewline _) = _
    rw [hnl, Reader.readRegex, Literal.readRegex?_slashed]
    show (Regex.compile pattern ignoreCase).map _ = _
    rw [h]
    rfl
  rw [coerce_default, Reader.all, Reader.readFirst_take hregex]
  rfl

end Switches
end QueryCriteria
