import QueryCriteria.Proofs.DisjointReaders
import QueryCriteria.Proofs.Faults

/-!
What texts are typed as.  A reader gives a value of its own kind or a text no longer than the
one it reads, never a list or a mapping; and a text that starts with an exclamation mark or an
equals sign is no literal, so that it is typed as itself.
-/
namespace QueryCriteria

/-- The values that a text can be typed as. -/
inductive TypedFrom (text : List Char) : Value → Prop where
  | bool (b : Bool) : TypedFrom text (.bool b)
  | int (n : Int) : TypedFrom text (.int n)
  | float (x : Binary64) : TypedFrom text (.float x)
  | date (m : Moment) : TypedFrom text (.date m)
  | regex (r : Regex) : TypedFrom text (.regex r)
  | str {s : String} (h : s.toList.length ≤ text.length) : TypedFrom text (.str s)

theorem TypedFrom.length_le {text : List Char} {s : String} (h : TypedFrom text (.str s)) :
    s.toList.length ≤ text.length := by
  cases h with
  | str h => exact h

theorem TypedFrom.mono {part text : List Char} {v : Value} (h : TypedFrom part v)
    (hpart : part.length ≤ text.length) : TypedFrom text v := by
  cases h with
  | bool b => exact .bool b
  | int n => exact .int n
  | float x => exact .float x
  | date m => exact .date m
  | regex r => exact .regex r
  | str h => exact .str (Nat.le_trans h hpart)

namespace Literal

theorem length_unescape (cs : List Char) : (unescape cs).length ≤ cs.length := by
  fun_induction unescape cs with
  | case1 c cs ih =>
    simp only [List.length_cons]
    omega
  | case2 c cs _ ih =>
    simp only [List.length_cons]
    omega
  | case3 => exact Nat.le_refl 0

theorem length_readQuoted? {cs inner : List Char} (h : readQuoted? cs = some inner) :
    inner.length ≤ cs.length := by
  unfold readQuoted? at h
  split at h
  · split at h
    · split at h
      · next quoted hspan =>
        obtain rfl := Option.some.inj h
        have hlength := congrArg List.length (append_of_spanTo? hspan)
        have hunescape := length_unescape quoted
        simp only [List.length_append, List.length_cons] at hlength ⊢
        omega
      · cases h
    · cases h
  · cases h

end Literal

/-! ### What readers give -/

namespace Reader

/-- The values that each reader gives. -/
inductive Gives (text : List Char) : Reader → Value → Prop where
  | regex (r : Regex) : Gives text regex (.regex r)
  | quoted {s : String} (h : s.toList.length ≤ text.length) : Gives text quoted (.str s)
  | boolean (b : Bool) : Gives text boolean (.bool b)
  | date (m : Moment) : Gives text date (.date m)
  | int (n : Int) : Gives text number (.int n)
  | float (x : Binary64) : Gives text number (.float x)

theorem Gives.typedFrom {reader : Reader} {text : List Char} {v : Value} (h : Gives text reader v) :
    TypedFrom text v := by
  cases h with
  | regex r => exact .regex r
  | quoted h => exact .str h
  | boolean b => exact .bool b
  | date m => exact .date m
  | int n => exact .int n
  | float x => exact .float x

theorem gives_of_readWhole {reader : Reader} {text : List Char} {v : Value}
    (h : reader.readWhole text = .ok (some v)) : Gives text reader v := by
  cases reader with
  | regex =>
    have h : readRegex text = .ok (some v) := h
    unfold readRegex at h
    split at h
    · cases h
    · obtain ⟨found, -, hfound⟩ := Fallible.map_eq_ok_iff.1 h
      obtain ⟨r, -, rfl⟩ := Option.map_eq_some_iff.1 hfound
      exact .regex r
  | quoted =>
    obtain ⟨inner, hinner, rfl⟩ := Option.map_eq_some_iff.1 (Except.ok.inj h)
    refine .quoted ?_
    rw [String.toList_ofList]
    exact Literal.length_readQuoted? hinner
  | boolean =>
    have h : readBoolean? text = some v := Except.ok.inj h
    unfold readBoolean? at h
    split at h
    · obtain rfl := Option.some.inj h
      exact .boolean true
    · split at h
      · obtain rfl := Option.some.inj h
        exact .boolean false
      · cases h
  | date =>
    obtain ⟨moment, -, rfl⟩ := Option.map_eq_some_iff.1 (Except.ok.inj h)
    exact .date moment
  | number =>
    obtain ⟨n, -, hn⟩ := Option.bind_eq_some_iff.1 (Except.ok.inj h)
    split at hn
    · obtain ⟨i, -, rfl⟩ := Option.map_eq_some_iff.1 hn
      exact .int i
    · split at hn
      · obtain rfl := Option.some.inj hn
        exact .float _
      · cases hn

theorem gives_of_read {reader : Reader} {text : List Char} {v : Value}
    (h : reader.read text = .ok (some v)) : Gives (Text.dropFinalNewline text) reader v := by
  unfold read at h
  split at h
  · cases h
  · exact gives_of_readWhole h

theorem typedFrom_of_read {reader : Reader} {text : List Char} {v : Value}
    (h : reader.read text = .ok (some v)) : TypedFrom text v :=
  (gives_of_read h).typedFrom.mono (Text.dropFinalNewline_prefix text).length_le

theorem typedFrom_of_readFirst {readers : List Reader} {text : List Char} {v : Value}
    (h : readFirst text readers = .ok (some v)) : TypedFrom text v := by
  obtain ⟨reader, -, -, -, -, hread⟩ := exists_builds h
  exact typedFrom_of_read hread

end Reader

namespace Switches

variable {s : Switches}

theorem typedFrom_of_coerce {text : String} {v : Value} (h : s.coerce text = .ok v) :
    TypedFrom text.toList v := by
  obtain ⟨found, hfound, rfl⟩ := Fallible.map_eq_ok_iff.1 h
  cases found with
  | none => exact .str (Nat.le_refl _)
  | some v => exact Reader.typedFrom_of_readFirst hfound

theorem typedFrom_of_token {text : String} {token : Token} (h : s.token text = .ok token) :
    TypedFrom text.toList token.value := by
  unfold Switches.token at h
  split at h
  · next rest htext =>
    obtain ⟨v, hv, rfl⟩ := Fallible.map_eq_ok_iff.1 h
    have hrest := typedFrom_of_coerce hv
    rw [String.toList_ofList] at hrest
    rw [htext]
    exact hrest.mono (Nat.le_succ _)
  · obtain ⟨v, hv, rfl⟩ := Fallible.map_eq_ok_iff.1 h
    exact typedFrom_of_coerce hv

end Switches

/-! ### Texts that are no literals -/

section Mark

variable {c : Char} (hc : c = '!' ∨ c = '=')

include hc

theorem Reader.read_mark (cs : List Char) (reader : Reader) :
    reader.read (c :: cs) = .ok none := by
  by_contra htakes
  obtain ⟨d, ds, hcons, hmem⟩ := mem_candidates_of_takes htakes
  rw [← (List.cons.inj hcons).1] at hmem
  have hnone : candidates c = [] := by
    rcases hc with rfl | rfl <;> decide
  rw [hnone] at hmem
  cases hmem

theorem Reader.readFirst_mark (cs : List Char) (readers : List Reader) :
    readFirst (c :: cs) readers = .ok none :=
  readFirst_eq_none_iff.2 fun reader _ => read_mark hc cs reader

/-- A text that starts like an operator is typed as itself. -/
theorem Switches.coerce_mark (s : Switches) (cs : List Char) :
    s.coerce (String.ofList (c :: cs)) = .ok (.str (String.ofList (c :: cs))) := by
  rw [coerce, String.toList_ofList, Reader.readFirst_mark hc]
  rfl

end Mark
end QueryCriteria
