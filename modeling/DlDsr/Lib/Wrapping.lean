import Mathlib.Algebra.Order.Group.Nat

/-!
# Differences of wrapped totals

Two totals are computed modulo `m`, and the smaller one is subtracted from the larger
with a subtraction that stops at 0. The result is the exact difference if the totals wrap
equally often (`Nat.mod_sub_mod_of_div_eq`), and only then (`Nat.div_eq_of_mod_sub_mod`):
if the larger one wraps once more, its remainder falls below the other's and the
subtraction answers 0.
-/

namespace Nat

variable {a b m : Nat}

/-- Totals that wrap equally often have the exact difference. -/
theorem mod_sub_mod_of_div_eq (h : a / m = b / m) : a % m - b % m = a - b := by
  have ha := Nat.div_add_mod a m
  have hb := Nat.div_add_mod b m
  rw [h] at ha
  omega

/-- If the difference is exact, they wrap equally often. -/
theorem div_eq_of_mod_sub_mod (hm : 0 < m) (hle : b ≤ a) (h : a % m - b % m = a - b) :
    a / m = b / m := by
  by_cases heq : a = b
  · rw [heq]
  · -- The remainders differ by as much as the totals do, so the quotients do not differ.
    have ha := Nat.div_add_mod a m
    have hb := Nat.div_add_mod b m
    have hmul : m * (a / m) = m * (b / m) := by omega
    exact Nat.eq_of_mul_eq_mul_left hm hmul

/-- Totals that wrap equally often keep their order. -/
theorem mod_le_mod_of_div_eq (hle : b ≤ a) (h : a / m = b / m) : b % m ≤ a % m := by
  have ha := Nat.div_add_mod a m
  have hb := Nat.div_add_mod b m
  rw [h] at ha
  omega

end Nat

namespace UInt64

/-- `saturating_sub` of 64-bit words. -/
def saturatingSub (a b : UInt64) : UInt64 := if b ≤ a then a - b else 0

@[simp] theorem toNat_saturatingSub (a b : UInt64) :
    (a.saturatingSub b).toNat = a.toNat - b.toNat := by
  unfold saturatingSub
  by_cases h : b ≤ a
  · rw [if_pos h, UInt64.toNat_sub_of_le _ _ h]
  · have hlt : a.toNat < b.toNat := UInt64.lt_iff_toNat_lt.mp (UInt64.not_le.mp h)
    rw [if_neg h, Nat.sub_eq_zero_of_le (Nat.le_of_lt hlt)]
    rfl

end UInt64
