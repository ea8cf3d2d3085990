import IndustrialSafety.Lib.Literal
import Mathlib.Algebra.BigOperators.Ring.List
import Mathlib.Algebra.Order.BigOperators.Group.List
import Mathlib.Algebra.Order.Field.Basic
import Mathlib.Data.Nat.Cast.Order.Field
import Mathlib.Tactic.FieldSimp
import Mathlib.Tactic.Linarith
import Mathlib.Tactic.Positivity
import Mathlib.Tactic.Ring

/-!
# Means of a list

A mean lies between two of its values: with positive weights (`exists_le_weighted`,
`exists_ge_weighted`) and without (`exists_le_mean`, `exists_ge_mean`). The variance is zero iff the
values are all the same (`variance_eq_zero_iff`).
-/

namespace Mean

variable {α R : Type} [Field R] [LinearOrder R] [IsStrictOrderedRing R] {l : List α} {f w : α → R}

theorem sum_weights_pos (hne : l ≠ []) (hw : ∀ x ∈ l, 0 < w x) : 0 < (l.map w).sum := by
  refine List.sum_pos _ (fun x hx => ?_) (by simpa using hne)
  obtain ⟨y, hy, rfl⟩ := List.mem_map.1 hx
  exact hw y hy

/-- With the mean in place of every value, the sum is the same. -/
theorem sum_mean_mul (f : α → R) (hne : l ≠ []) (hw : ∀ x ∈ l, 0 < w x) :
    (l.map fun x => (l.map fun x => f x * w x).sum / (l.map w).sum * w x).sum =
      (l.map fun x => f x * w x).sum := by
  rw [List.sum_map_mul_left, div_mul_cancel₀ _ (sum_weights_pos hne hw).ne']

/-- Some value is at most the weighted mean. -/
theorem exists_le_weighted (f : α → R) (hne : l ≠ []) (hw : ∀ x ∈ l, 0 < w x) :
    ∃ x ∈ l, f x ≤ (l.map fun x => f x * w x).sum / (l.map w).sum := by
  by_contra hall
  push Not at hall
  have hlt := List.sum_lt_sum_of_ne_nil hne _ _ fun x hx =>
    mul_lt_mul_of_pos_right (hall x hx) (hw x hx)
  exact hlt.ne (sum_mean_mul f hne hw)

/-- Some value is at least the weighted mean. -/
theorem exists_ge_weighted (f : α → R) (hne : l ≠ []) (hw : ∀ x ∈ l, 0 < w x) :
    ∃ x ∈ l, (l.map fun x => f x * w x).sum / (l.map w).sum ≤ f x := by
  by_contra hall
  push Not at hall
  have hlt := List.sum_lt_sum_of_ne_nil hne _ _ fun x hx =>
    mul_lt_mul_of_pos_right (hall x hx) (hw x hx)
  exact hlt.ne' (sum_mean_mul f hne hw)

omit [LinearOrder R] [IsStrictOrderedRing R] in
theorem sum_one (l : List α) : (l.map fun _ => (1 : R)).sum = l.length := by
  simp

theorem exists_le_mean (f : α → R) (hne : l ≠ []) : ∃ x ∈ l, f x ≤ (l.map f).sum / l.length := by
  have h := exists_le_weighted f hne (w := fun _ => 1) fun _ _ => zero_lt_one
  simpa [sum_one] using h

theorem exists_ge_mean (f : α → R) (hne : l ≠ []) : ∃ x ∈ l, (l.map f).sum / l.length ≤ f x := by
  have h := exists_ge_weighted f hne (w := fun _ => 1) fun _ _ => zero_lt_one
  simpa [sum_one] using h

/-! ## The mean and the variance -/

omit [LinearOrder R] [IsStrictOrderedRing R] in
def mean (l : List R) : R := l.sum / l.length

/-- The population variance. -/
def variance (l : List R) : R := mean (l.map fun x => (x - mean l) ^ 2)

section
variable {l : List R} {b : R}

omit [LinearOrder R] [IsStrictOrderedRing R] in
@[simp] theorem mean_nil : mean ([] : List R) = 0 := by simp [mean]

theorem le_mean (hne : l ≠ []) (h : ∀ x ∈ l, b ≤ x) : b ≤ mean l := by
  obtain ⟨x, hx, hle⟩ := exists_le_mean id hne
  rw [List.map_id] at hle
  exact (h x hx).trans hle

theorem mean_le (hne : l ≠ []) (h : ∀ x ∈ l, x ≤ b) : mean l ≤ b := by
  obtain ⟨x, hx, hle⟩ := exists_ge_mean id hne
  rw [List.map_id] at hle
  exact hle.trans (h x hx)

theorem mean_nonneg (h : ∀ x ∈ l, 0 ≤ x) : 0 ≤ mean l := by
  by_cases hne : l = []
  · rw [hne, mean_nil]
  · exact le_mean hne h

theorem length_pos (hne : l ≠ []) : (0 : R) < l.length :=
  Nat.cast_pos.2 (List.length_pos_iff.2 hne)

theorem sum_eq_mean_mul (hne : l ≠ []) : l.sum = mean l * l.length := by
  rw [mean, div_mul_cancel₀ _ (length_pos hne).ne']

/-- The mean is an upper bound only where every value is. -/
theorem mean_eq_iff (hne : l ≠ []) (h : ∀ x ∈ l, x ≤ b) : mean l = b ↔ ∀ x ∈ l, x = b := by
  constructor
  · intro hmean x hx
    by_contra hxb
    have hlt : (l.map id).sum < (l.map fun _ => b).sum :=
      List.sum_lt_sum _ _ (fun y hy => h y hy) ⟨x, hx, (h x hx).lt_of_ne hxb⟩
    rw [List.map_id, sum_eq_mean_mul hne, hmean] at hlt
    simp [mul_comm] at hlt
  · intro hall
    exact le_antisymm (mean_le hne h) (le_mean hne fun x hx => (hall x hx).ge)

theorem variance_nonneg (l : List R) : 0 ≤ variance l := by
  refine mean_nonneg fun x hx => ?_
  obtain ⟨y, -, rfl⟩ := List.mem_map.1 hx
  positivity

/-- Values do not vary only where they are all the same. -/
theorem variance_eq_zero_iff (l : List R) : variance l = 0 ↔ ∀ x ∈ l, ∀ y ∈ l, x = y := by
  by_cases hne : l = []
  · subst hne
    simp [variance]
  have hsquares : variance l = 0 ↔ ∀ x ∈ l, x = mean l := by
    have hneg : mean (l.map fun x => -(x - mean l) ^ 2) = -variance l := by
      simp only [variance, mean, List.length_map]
      rw [← neg_div, List.sum_neg, List.map_map]
      rfl
    rw [← neg_eq_zero, ← hneg, mean_eq_iff (by simpa using hne)]
    · simp [sub_eq_zero]
    · intro y hy
      obtain ⟨x, -, rfl⟩ := List.mem_map.1 hy
      exact neg_nonpos.2 (sq_nonneg _)
  rw [hsquares]
  constructor
  · intro h x hx y hy
    rw [h x hx, h y hy]
  · intro h x hx
    exact le_antisymm (le_mean hne fun y hy => (h x hx y hy).le) (mean_le hne fun y hy => (h y hy x hx).le)

end

end Mean
