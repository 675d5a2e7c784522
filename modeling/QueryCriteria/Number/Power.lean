/-!
Powers of two and of ten, the bases of stored and of written numbers.
-/
namespace QueryCriteria

def twoTo (n : Nat) : Nat := Nat.pow 2 n

def tenTo (n : Nat) : Nat := Nat.pow 10 n

theorem twoTo_succ (n : Nat) : twoTo (n + 1) = 2 * twoTo n := by
  show Nat.pow 2 n * 2 = 2 * Nat.pow 2 n
  exact Nat.mul_comm _ _

theorem tenTo_zero : tenTo 0 = 1 := rfl

theorem tenTo_succ (n : Nat) : tenTo (n + 1) = 10 * tenTo n := by
  show Nat.pow 10 n * 10 = 10 * Nat.pow 10 n
  exact Nat.mul_comm _ _

theorem twoTo_pos (n : Nat) : 0 < twoTo n := by
  induction n with
  | zero => exact Nat.one_pos
  | succ n ih => rw [twoTo_succ]; omega

theorem tenTo_pos (n : Nat) : 0 < tenTo n := by
  induction n with
  | zero => exact Nat.one_pos
  | succ n ih => rw [tenTo_succ]; omega

end QueryCriteria
