import IndustrialSafety.Lib.Literal
import Mathlib.Algebra.Order.Field.Basic
import Mathlib.Tactic.Positivity

/-!
# A square root

What is used of a square root: it is monotone, and its square is the number. So it is not negative, and
zero at zero only.
-/

variable {R : Type} [Field R] [LinearOrder R] [IsStrictOrderedRing R]

structure SquareRoot (sqrt : R → R) : Prop where
  mono : ∀ x y, 0 ≤ x → x ≤ y → sqrt x ≤ sqrt y
  sq : ∀ x, 0 ≤ x → sqrt x ^ 2 = x

namespace SquareRoot

variable {sqrt : R → R} (h : SquareRoot sqrt)

include h

theorem zero : sqrt 0 = 0 := pow_eq_zero_iff (two_ne_zero) |>.1 (h.sq 0 le_rfl)

theorem nonneg {x : R} (hx : 0 ≤ x) : 0 ≤ sqrt x := h.zero ▸ h.mono 0 x le_rfl hx

theorem eq_zero_iff {x : R} (hx : 0 ≤ x) : sqrt x = 0 ↔ x = 0 := by
  rw [← h.sq x hx, pow_eq_zero_iff two_ne_zero, h.sq x hx]

end SquareRoot
