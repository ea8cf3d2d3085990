import IndustrialSafety.Lib.Literal
import Mathlib.Algebra.Order.Field.Basic
import Mathlib.Order.Interval.Set.UnorderedInterval
import Mathlib.Tactic.Linarith
import Mathlib.Tactic.Positivity
import Mathlib.Tactic.Ring

/-!
# Saturating and decaying curves

Over an ordered field with an abstract exponential (positive, strictly increasing, `1` at `0`): the
saturating curve `top * (1 - exp (-k * x))`, the decay factor `exp (-rate * t)` and the relaxation
`goal + (start - goal) * w` of a value towards a goal, with their bounds and monotonicity.
-/

/-- A positive, strictly increasing function with value `1` at `0`. -/
structure Exponential (R : Type) [Field R] [LinearOrder R] where
  exp : R → R
  exp_pos : ∀ x, 0 < exp x
  exp_strictMono : StrictMono exp
  exp_zero : exp 0 = 1

/-- `goal + (start - goal) * w`: `start` at `w = 1`, `goal` at `w = 0`. -/
def relax {R : Type} [Field R] (goal start w : R) : R := goal + (start - goal) * w

namespace Exponential

variable {R : Type} [Field R] [LinearOrder R] (E : Exponential R)

/-- The saturating curve from `0` towards `top`. -/
def saturate (top k x : R) : R := top * (1 - E.exp (-k * x))

/-- The decay factor after `t`. -/
def decay (rate t : R) : R := E.exp (-rate * t)

theorem decay_pos (rate t : R) : 0 < E.decay rate t := E.exp_pos _

@[simp] theorem decay_zero (rate : R) : E.decay rate 0 = 1 := by
  rw [decay, mul_zero, E.exp_zero]

theorem exp_le_one {x : R} (hx : x ≤ 0) : E.exp x ≤ 1 :=
  E.exp_zero ▸ E.exp_strictMono.monotone hx

variable [IsStrictOrderedRing R] {E}

theorem decay_le_one {rate t : R} (hr : 0 ≤ rate) (ht : 0 ≤ t) : E.decay rate t ≤ 1 :=
  E.exp_le_one (by have := mul_nonneg hr ht; linarith)

theorem decay_strictAnti {rate : R} (hr : 0 < rate) : StrictAnti (E.decay rate) := fun s t hst =>
  E.exp_strictMono (by have := mul_lt_mul_of_pos_left hst hr; linarith)

omit [IsStrictOrderedRing R] in
/-- Where `exp` turns sums into products, decays over two spans multiply. -/
theorem decay_add (hexp : ∀ x y, E.exp (x + y) = E.exp x * E.exp y) (rate s t : R) :
    E.decay rate (s + t) = E.decay rate s * E.decay rate t := by
  rw [decay, mul_add, hexp]
  rfl

theorem saturate_le {top k x : R} (h : 0 ≤ top) : E.saturate top k x ≤ top := by
  have := mul_nonneg h (E.exp_pos (-k * x)).le
  unfold saturate
  linarith

theorem saturate_nonneg {top k x : R} (h : 0 ≤ top) (hk : 0 ≤ k) (hx : 0 ≤ x) :
    0 ≤ E.saturate top k x :=
  mul_nonneg h (sub_nonneg.2 (E.exp_le_one (by have := mul_nonneg hk hx; linarith)))

theorem saturate_mono {top k x y : R} (h : 0 ≤ top) (hk : 0 ≤ k) (hxy : x ≤ y) :
    E.saturate top k x ≤ E.saturate top k y := by
  refine mul_le_mul_of_nonneg_left ?_ h
  have := E.exp_strictMono.monotone
    (show -k * y ≤ -k * x by have := mul_le_mul_of_nonneg_left hxy hk; linarith)
  linarith

end Exponential

section
variable {R : Type} [Field R] [LinearOrder R] [IsStrictOrderedRing R] {goal start start' w w' lo hi : R}

theorem relax_le (hw : 0 ≤ w) (hw1 : w ≤ 1) (hg : goal ≤ hi) (hs : start ≤ hi) :
    relax goal start w ≤ hi := by
  have h1 := mul_le_mul_of_nonneg_right hs hw
  have h2 := mul_le_mul_of_nonneg_right hg (sub_nonneg.2 hw1)
  unfold relax
  linarith

theorem le_relax (hw : 0 ≤ w) (hw1 : w ≤ 1) (hg : lo ≤ goal) (hs : lo ≤ start) :
    lo ≤ relax goal start w := by
  have h1 := mul_le_mul_of_nonneg_right hs hw
  have h2 := mul_le_mul_of_nonneg_right hg (sub_nonneg.2 hw1)
  unfold relax
  linarith

theorem relax_mono (hw : 0 ≤ w) (h : start ≤ start') : relax goal start w ≤ relax goal start' w := by
  have := mul_le_mul_of_nonneg_right h hw
  unfold relax
  linarith

omit [LinearOrder R] [IsStrictOrderedRing R] in
@[simp] theorem relax_one : relax goal start 1 = start := by simp [relax]

omit [LinearOrder R] [IsStrictOrderedRing R] in
/-- A relaxation that starts where another one ended. -/
theorem relax_relax : relax goal (relax goal start w) w' = relax goal start (w * w') := by
  unfold relax
  ring

theorem relax_mem_uIcc (hw : 0 ≤ w) (hw1 : w ≤ 1) : relax goal start w ∈ Set.uIcc start goal :=
  ⟨le_relax hw hw1 inf_le_right inf_le_left, relax_le hw hw1 le_sup_right le_sup_left⟩

/-- Above its goal, the value falls with the weight of its start. -/
theorem relax_mono_weight (h : goal ≤ start) : Monotone (relax goal start) := fun w w' hw => by
  have := mul_le_mul_of_nonneg_left hw (sub_nonneg.2 h)
  unfold relax
  linarith

/-- Below its goal, it rises. -/
theorem relax_anti_weight (h : start ≤ goal) : Antitone (relax goal start) := fun w w' hw => by
  have := mul_le_mul_of_nonneg_left hw (sub_nonneg.2 h)
  unfold relax
  linarith

end
