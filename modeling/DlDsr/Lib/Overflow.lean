import Mathlib.Algebra.Order.Group.Nat

/-!
# Arithmetic that stops at an overflow

A build with overflow checks stops at the first addition or subtraction whose result does
not fit its type, and at code that was meant to be unreachable. `Except Panic` is what such
a build computes; where the operands are known to fit, the result is the unbounded one.
-/

/-- Why a computation stops. -/
inductive Panic where
  | overflow
  | unreachable
deriving DecidableEq

namespace Panic

variable {width a b : Nat} {x y : UInt8}

/-- Addition of unsigned numbers of `width` bits. -/
def add (width a b : Nat) : Except Panic Nat :=
  if a + b < 2 ^ width then .ok (a + b) else .error .overflow

/-- Addition of bytes. -/
def addU8 (x y : UInt8) : Except Panic UInt8 :=
  if x.toNat + y.toNat < 2 ^ 8 then .ok (x + y) else .error .overflow

/-- Subtraction of unsigned numbers. -/
def sub (a b : Nat) : Except Panic Nat :=
  if b ≤ a then .ok (a - b) else .error .overflow

/-- A computation goes on with a result. -/
theorem ok_bind {α β : Type} (r : α) (f : α → Except Panic β) : (Except.ok r >>= f) = f r := rfl

theorem add_eq_ok (h : a + b < 2 ^ width) : add width a b = .ok (a + b) := if_pos h

theorem addU8_eq_ok (h : x.toNat + y.toNat < 2 ^ 8) : addU8 x y = .ok (x + y) := if_pos h

theorem sub_eq_ok (h : b ≤ a) : sub a b = .ok (a - b) := if_pos h

end Panic
