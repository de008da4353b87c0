import Mathlib.Algebra.Order.Group.Nat
import Mathlib.Tactic.Common

/-!
# A counter that is read in two parts

The part below `base` is read first and the part above it later, while the counter goes
up. What is put together is never too small. It is too large when the lower part has
gone down in between.
-/

namespace Clib

variable {base d a b : Nat}

/-- The lower part of `a` below the upper part of `b`. -/
def torn (base a b : Nat) : Nat := base * (b / base) + a % base

theorem torn_self : torn base a a = a := Nat.div_add_mod a base

theorem le_torn (h : a ≤ b) : a ≤ torn base a b := by
  have hparts : base * (a / base) + a % base = a := Nat.div_add_mod a base
  have hupper : base * (a / base) ≤ base * (b / base) :=
    Nat.mul_le_mul_left base (Nat.div_le_div_right h)
  unfold torn
  omega

/-- In units of `d`. -/
theorem torn_div (hd : 0 < d) (hbase : d ∣ base) :
    torn base a b / d = base / d * (b / base) + a % base / d := by
  obtain ⟨k, rfl⟩ := hbase
  unfold torn
  rw [Nat.mul_assoc, Nat.mul_add_div hd, Nat.mul_div_cancel_left k hd]

/-- The value is not too large exactly when the lower part has not gone down. -/
theorem torn_div_le_iff (hd : 0 < d) (hbase : d ∣ base) :
    torn base a b / d ≤ b / d ↔ a % base / d ≤ b % base / d := by
  have hb : b / d = base / d * (b / base) + b % base / d := by
    rw [← torn_div hd hbase, torn_self]
  rw [torn_div hd hbase, hb, Nat.add_le_add_iff_left]

/-- It is never a whole `base` too large. -/
theorem torn_lt (hbase : 0 < base) : torn base a b < b + base := by
  have hlower : a % base < base := Nat.mod_lt a hbase
  have hparts : base * (b / base) + b % base = b := Nat.div_add_mod b base
  unfold torn
  omega

/-- Without a carry the lower part has not gone down. -/
theorem mod_le_of_div_eq (h : a ≤ b) (hcarry : a / base = b / base) : a % base ≤ b % base := by
  have ha : base * (a / base) + a % base = a := Nat.div_add_mod a base
  have hb : base * (b / base) + b % base = b := Nat.div_add_mod b base
  rw [hcarry] at ha
  omega

/-- With one it has, as long as less than a whole `base` was counted. -/
theorem mod_lt_of_div_ne (h : a ≤ b) (hless : b < a + base) (hcarry : a / base ≠ b / base) :
    b % base < a % base := by
  have hbase : 0 < base := by omega
  have ha : base * (a / base) + a % base = a := Nat.div_add_mod a base
  have hb : base * (b / base) + b % base = b := Nat.div_add_mod b base
  have hlt : a / base < b / base := Nat.lt_of_le_of_ne (Nat.div_le_div_right h) hcarry
  have hupper : base * (a / base) + base ≤ base * (b / base) := by
    rw [← Nat.mul_succ]
    exact Nat.mul_le_mul_left base hlt
  omega

end Clib
