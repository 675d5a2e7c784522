import Mathlib.Data.List.Induction
import QueryCriteria.Literal.Date
import QueryCriteria.Number.Power

/-!
The numbers that runs of digits write.  A run taken apart gives the number in two places, and the
first digits of a run are the number without the others.
-/
namespace QueryCriteria

namespace Text

theorem digit?_lt {c : Char} {d : Nat} (h : digit? c = some d) : d < 10 := by
  obtain ⟨z, hz, rfl⟩ := Option.map_eq_some_iff.1 h
  have hrange := List.find?_some hz
  simp only [Bool.and_eq_true, decide_eq_true_eq] at hrange
  omega

theorem ofDigits_append_singleton (ds : List Nat) (d : Nat) :
    ofDigits (ds ++ [d]) = 10 * ofDigits ds + d := by
  rw [ofDigits, List.foldl_append]
  rfl

theorem ofDigits_append (ds es : List Nat) :
    ofDigits (ds ++ es) = ofDigits ds * tenTo es.length + ofDigits es := by
  induction es using List.reverseRecOn with
  | nil => simp [tenTo_zero, ofDigits]
  | append_singleton es e ih =>
    rw [← List.append_assoc, ofDigits_append_singleton, ofDigits_append_singleton, ih,
      List.length_append, List.length_singleton, tenTo_succ, Nat.mul_add, Nat.mul_left_comm,
      Nat.add_assoc]

theorem ofDigits_lt {ds : List Nat} (h : ∀ d ∈ ds, d < 10) : ofDigits ds < tenTo ds.length := by
  induction ds using List.reverseRecOn with
  | nil => exact Nat.one_pos
  | append_singleton ds d ih =>
    have hinit := ih fun e he => h e (List.mem_append_left _ he)
    have hlast : d < 10 := h d (by simp)
    rw [ofDigits_append_singleton, List.length_append, List.length_singleton, tenTo_succ]
    omega

end Text

namespace DateText

open Text

theorem number_append (cs ds : List Char) :
    number (cs ++ ds) = number cs * tenTo (ds.filterMap digit?).length + number ds := by
  rw [number, List.filterMap_append, ofDigits_append]
  rfl

theorem length_filterMap_digit? {cs : List Char} (h : ∀ c ∈ cs, isDigit c = true) :
    (cs.filterMap digit?).length = cs.length := by
  induction cs with
  | nil => rfl
  | cons c cs ih =>
    obtain ⟨d, hd⟩ := Option.isSome_iff_exists.1 (h c List.mem_cons_self)
    rw [List.filterMap_cons, hd, List.length_cons, List.length_cons,
      ih fun e he => h e (List.mem_cons_of_mem c he)]

theorem number_lt {cs : List Char} (h : ∀ c ∈ cs, isDigit c = true) : number cs < tenTo cs.length := by
  rw [← length_filterMap_digit? h]
  refine ofDigits_lt fun d hd => ?_
  obtain ⟨c, -, hc⟩ := List.mem_filterMap.1 hd
  exact digit?_lt hc

/-- The first digits of a number are the number without the others. -/
theorem number_take {cs : List Char} (h : ∀ c ∈ cs, isDigit c = true) (width : Nat) :
    number (cs.take width) = number cs / tenTo (cs.length - width) := by
  have hrest : ∀ c ∈ cs.drop width, isDigit c = true := fun c hc => h c (List.mem_of_mem_drop hc)
  have hlt := number_lt hrest
  have hsum := number_append (cs.take width) (cs.drop width)
  rw [List.take_append_drop, length_filterMap_digit? hrest] at hsum
  rw [List.length_drop] at hlt hsum
  rw [hsum, Nat.mul_comm, Nat.mul_add_div (tenTo_pos _), Nat.div_eq_of_lt hlt, Nat.add_zero]

theorem microseconds_nil : microseconds [] = 0 := by decide

end DateText
end QueryCriteria
