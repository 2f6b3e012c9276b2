import Highlighter.Number

/-! Rounding to 53 bits. It keeps the sign of an integer, so a rounded difference still tells which
of two integers is the greater one, and it keeps every integer up to 2^53.
-/

namespace Highlighter

/-- A positive number is at least its spacing, so it is not rounded to 0. -/
theorem nearestNat_pos {n : Nat} (positive : 0 < n) : 0 < nearestNat n := by
  have spacing : Nat.pow 2 (n.log2 - 52) ≤ n :=
    Nat.le_trans (Nat.pow_le_pow_right (by decide) (Nat.sub_le _ _))
      (Nat.log2_self_le (Nat.ne_of_gt positive))
  have unit : 0 < Nat.pow 2 (n.log2 - 52) := Nat.pow_pos (by decide)
  have quotient : 0 < n / Nat.pow 2 (n.log2 - 52) := Nat.div_pos spacing unit
  refine Nat.mul_pos ?_ unit
  rw [roundHalfEven]
  split
  · exact quotient
  · split <;> omega

/-- Rounding keeps the side of 0 that an integer is on, by cases on its sign. -/
theorem compare_nearestInt_zero (n : Int) : compare (nearestInt n) 0 = compare n 0 := by
  match n with
  | .ofNat 0 => rfl
  | .ofNat (n + 1) =>
      have positive : 0 < nearestInt (.ofNat (n + 1)) :=
        Int.natCast_pos.mpr (nearestNat_pos (Nat.succ_pos n))
      have greater : 0 < Int.ofNat (n + 1) := Int.natCast_pos.mpr (Nat.succ_pos n)
      rw [Int.compare_eq_gt.mpr positive, Int.compare_eq_gt.mpr greater]
  | .negSucc n =>
      have negative : nearestInt (.negSucc n) < 0 :=
        Int.neg_neg_of_pos (Int.natCast_pos.mpr (nearestNat_pos (Nat.succ_pos n)))
      rw [Int.compare_eq_lt.mpr negative, Int.compare_eq_lt.mpr (Int.negSucc_lt_zero n)]

/-- The sign of a rounded difference compares two integers. -/
theorem compare_nearestInt_sub (a b : Int) : compare (nearestInt (a - b)) 0 = compare a b := by
  rw [compare_nearestInt_zero]
  rcases Int.lt_trichotomy a b with less | rfl | greater
  · rw [Int.compare_eq_lt.mpr less, Int.compare_eq_lt.mpr (Int.sub_neg_of_lt less)]
  · rw [Int.sub_self, Std.compare_self, Std.compare_self]
  · rw [Int.compare_eq_gt.mpr greater, Int.compare_eq_gt.mpr (Int.sub_pos_of_lt greater)]

/-- An integer of at most 2^53 in magnitude needs no rounding; 2^53 is itself an even unit. -/
theorem nearestInt_of_natAbs_le {n : Int} (small : n.natAbs ≤ 9007199254740992)
    : nearestInt n = n := by
  have exact {m : Nat} (small : m ≤ 9007199254740992) : nearestNat m = m := by
    rcases Nat.lt_or_eq_of_le small with below | rfl
    · exact nearestNat_of_lt below
    · decide
  match n with
  | .ofNat n => exact congrArg Int.ofNat (exact small)
  | .negSucc n =>
      have same : nearestNat (n + 1) = n + 1 := exact small
      rw [nearestInt, same]
      rfl

end Highlighter
