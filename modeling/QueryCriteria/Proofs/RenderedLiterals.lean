import QueryCriteria.Proofs.CriteriaTrees
import QueryCriteria.Proofs.FinalNewline

/-!
Reading back rendered dates and regular expressions.  A date is typed as a moment in universal
time, whose text is a date again; and the literal of a regular expression has its pattern as it
was, with an `i` behind it also where a flag in the pattern says that case does not matter.
-/
namespace QueryCriteria

namespace Moment

theorem isUniversal_of_ofInstant? {n : Int} {m : Moment} (h : ofInstant? n = some m) :
    m.IsUniversal := by
  by_cases hrange : 0 ≤ n ∧ n < endOfTime
  · obtain ⟨other, hother, huniversal, -⟩ := exists_ofInstant? hrange
    rw [Option.some.inj (h.symm.trans hother)]
    exact huniversal
  · rw [ofInstant?, if_neg hrange] at h
    cases h

end Moment

theorem DateText.isUniversal_of_moment? {d : DateText} {m : Moment} (h : d.moment? = some m) :
    m.IsUniversal := by
  unfold moment? at h
  split at h
  · exact Moment.isUniversal_of_ofInstant? h
  · cases h

namespace Regex

theorem text_eq_slashed (r : Regex) : r.text = Literal.slashed r.pattern.toList r.ignoreCase := rfl

/-- Compiling an expression again changes nothing: its flag is the request together with the flags
in the pattern. -/
theorem compile_own {pattern : List Char} {ignoreCase : Bool} {r : Regex}
    (h : compile pattern ignoreCase = .ok (some r)) :
    compile r.pattern.toList r.ignoreCase = .ok (some r) := by
  unfold compile at h ⊢
  cases hread : Pattern.read? pattern with
  | none =>
    rw [hread] at h
    cases h
  | some reading =>
    rw [hread] at h
    dsimp only at h
    split at h
    · cases h
    · next hbehind =>
      obtain rfl := Option.some.inj (Except.ok.inj h)
      dsimp only
      rw [String.toList_ofList, hread]
      dsimp only
      rw [if_neg hbehind, Bool.or_assoc, Bool.or_self]

end Regex

namespace Reader

variable {reader : Reader} {text : List Char}

theorem isUniversal_of_read {m : Moment} (h : reader.read text = .ok (some (.date m))) :
    m.IsUniversal := by
  obtain rfl := (gives_of_read h).eq_date
  unfold read at h
  split at h
  · cases h
  · obtain ⟨moment, hmoment, hm⟩ := Option.map_eq_some_iff.1 (Except.ok.inj h)
    obtain ⟨d, -, hd⟩ := Option.bind_eq_some_iff.1 hmoment
    rw [Value.date.inj hm] at hd
    exact DateText.isUniversal_of_moment? hd

theorem exists_compile_of_read {r : Regex} (h : reader.read text = .ok (some (.regex r))) :
    ∃ pattern ignoreCase, Regex.compile pattern ignoreCase = .ok (some r) := by
  obtain rfl : reader = .regex := by
    cases gives_of_read h
    rfl
  have hread : readRegex (Text.dropFinalNewline text) = .ok (some (.regex r)) := h
  unfold readRegex at hread
  split at hread
  · cases hread
  · next pattern ignoreCase _ =>
    obtain ⟨found, hfound, hr⟩ := Fallible.map_eq_ok_iff.1 hread
    obtain ⟨other, rfl, hother⟩ := Option.map_eq_some_iff.1 hr
    rw [Value.regex.inj hother] at hfound
    exact ⟨pattern, ignoreCase, hfound⟩

end Reader

/-- Dates and regular expressions: the values that are rendered as texts. -/
inductive Value.IsLiteral : Value → Prop where
  | date (m : Moment) : IsLiteral (.date m)
  | regex (r : Regex) : IsLiteral (.regex r)

namespace Switches

theorem exists_read_of_coerce {text : String} {v : Value} (hv : v.IsLiteral)
    (h : ({} : Switches).coerce text = .ok v) :
    ∃ reader : Reader, reader.read text.toList = .ok (some v) := by
  have hne : v ≠ .str (String.ofList text.toList) := by
    cases hv <;> nofun
  rw [← String.ofList_toList (s := text)] at h
  obtain ⟨reader, -, -, -, -, hread⟩ := exists_builds_of_coerce h hne
  exact ⟨reader, hread⟩

/-- The literal that stands for a typed value is typed as that value. -/
theorem coerce_rendered {text : String} {v : Value} (hv : v.IsLiteral)
    (h : ({} : Switches).coerce text = .ok v) :
    ∃ literal, v.rendered = .str literal ∧ ({} : Switches).coerce literal = .ok v := by
  obtain ⟨reader, hread⟩ := exists_read_of_coerce hv h
  cases hv with
  | date m => exact ⟨_, rfl, coerce_moment (Reader.isUniversal_of_read hread)⟩
  | regex r =>
    obtain ⟨pattern, ignoreCase, hcompile⟩ := Reader.exists_compile_of_read hread
    refine ⟨_, rfl, ?_⟩
    rw [Regex.text_eq_slashed]
    exact coerce_slashed (Regex.compile_own hcompile)

/-- A date or a regular expression that a text is typed as is rendered as a text that is typed as
the same value.  Wherever the value stands in a criteria tree, that text stands at the same place
of the rendered tree, unless rendering puts another entry in the place. -/
theorem rendered_literal_read_back {text : String} {v : Value} (hv : v.IsLiteral)
    (h : ({} : Switches).coerce text = .ok v) :
    ∃ literal, v.rendered = .str literal ∧ ({} : Switches).coerce literal = .ok v ∧
      ∀ (tree : Value) (path : List Step), tree.DistinctKeys → tree.at? path = some v →
        tree.rendered.at? (path.map Step.rendered) = some (.str literal) ∨
          tree.ClashesOn path := by
  obtain ⟨literal, hrendered, hcoerce⟩ := coerce_rendered hv h
  refine ⟨literal, hrendered, hcoerce, fun tree path hdistinct hat => ?_⟩
  rw [← hrendered]
  exact Value.at?_rendered hdistinct hat

/-- An expression with a flag in its pattern, in a list under an operator. -/
def listedFlag : Value := .map [(.comparison .among, .list [.regex ⟨"(?i)a", true⟩])]

theorem rendered_literal_read_back_flagged :
    ({} : Switches).coerce "/(?i)a/" = .ok (.regex ⟨"(?i)a", true⟩) ∧
      ({} : Switches).coerce "/(?i)a/i" = .ok (.regex ⟨"(?i)a", true⟩) ∧
      listedFlag.rendered.at? [.entry (.field "in"), .item 0] = some (.str "/(?i)a/i") := by
  have hread : ({} : Switches).coerce "/(?i)a/" = .ok (.regex ⟨"(?i)a", true⟩) := rfl
  obtain ⟨literal, hrendered, hcoerce, hplace⟩ := rendered_literal_read_back (.regex _) hread
  obtain rfl : "/(?i)a/i" = literal := Value.str.inj hrendered
  have htree : listedFlag.IsTree :=
    .single (.list (List.forall_mem_singleton.2 rfl)) (.comparison .among)
  refine ⟨hread, hcoerce, ?_⟩
  rcases hplace listedFlag [.entry (.comparison .among), .item 0] htree.distinctKeys rfl with
    hplace | ⟨before, key, after, es, name, hsplit, hbefore, hclash, -⟩
  · exact hplace
  -- one key alone cannot clash, and a list has none
  · cases before with
    | nil =>
      obtain rfl := Value.map.inj (Option.some.inj hbefore)
      cases List.mem_singleton.1 hclash.1
    | cons step before =>
      have htail := (List.cons.inj hsplit).2
      cases before with
      | nil => cases (List.cons.inj htail).1
      | cons step before =>
        have hnil : before ++ .entry key :: after = [] := (List.cons.inj htail).2.symm
        exact absurd hnil (List.append_ne_nil_of_right_ne_nil before (List.cons_ne_nil _ after))

end Switches
end QueryCriteria
