import Mathlib.Algebra.Group.Nat.Defs
import Mathlib.Data.List.Lex
import Mathlib.Order.Lattice

/-!
# Numerals of a fixed width

`padded w n`: the last `w` decimal digits of `n`. Texts that start with numerals of one width are in the
order of the numbers first (`padded_append_lt_iff`).
-/

/-- Blocks of one length decide the order of two lists, and what follows does where they are equal. -/
theorem List.append_lt_append_iff {α : Type} [LinearOrder α] {xs xs' ys ys' : List α}
    (h : xs.length = xs'.length) : xs ++ ys < xs' ++ ys' ↔ xs < xs' ∨ xs = xs' ∧ ys < ys' := by
  induction xs generalizing xs' with
  | nil =>
    rw [List.length_nil, eq_comm, List.length_eq_zero_iff] at h
    simp [h]
  | cons x xs ih =>
    cases xs' with
    | nil => cases h
    | cons x' xs' =>
      have htail := ih (Nat.succ.inj h)
      rw [List.cons_append, List.cons_append, List.cons_lt_cons_iff, List.cons_lt_cons_iff, htail,
        List.cons_eq_cons]
      tauto

namespace Numeral

/-- The code points of a text. -/
def units (l : List Char) : List ℕ := l.map Char.toNat

@[simp] theorem units_append (l l' : List Char) : units (l ++ l') = units l ++ units l' :=
  List.map_append

@[simp] theorem units_cons (c : Char) (l : List Char) : units (c :: l) = c.toNat :: units l := rfl

@[simp] theorem units_nil : units [] = [] := rfl

def padded : ℕ → ℕ → List Char
  | 0, _ => []
  | w + 1, n => padded w (n / 10) ++ [Nat.digitChar (n % 10)]

@[simp] theorem length_padded (w n : ℕ) : (padded w n).length = w := by
  induction w generalizing n with
  | zero => rfl
  | succ w ih => rw [padded, List.length_append, ih, List.length_singleton]

theorem toNat_lt_of_mem_padded {w n : ℕ} {c : Char} (h : c ∈ padded w n) : c.toNat < 128 := by
  induction w generalizing n with
  | zero => cases h
  | succ w ih =>
    rcases List.mem_append.1 h with h | h
    · exact ih h
    · rw [List.mem_singleton.1 h, Nat.toNat_digitChar_of_lt_ten (Nat.mod_lt n (by decide))]
      omega

variable {w m n : ℕ} {l l' : List ℕ}

theorem padded_lt_iff (hm : m < 10 ^ w) (hn : n < 10 ^ w) :
    units (padded w m) < units (padded w n) ↔ m < n := by
  induction w generalizing m n with
  | zero =>
    rw [Nat.pow_zero] at hm hn
    exact iff_of_false (lt_irrefl _) (by omega)
  | succ w ih =>
    rw [Nat.pow_succ] at hm hn
    have hlt : ∀ {a b : ℕ}, a < 10 ^ w * 10 → b < 10 ^ w * 10 →
        (units (padded w (a / 10)) < units (padded w (b / 10)) ↔ a / 10 < b / 10) :=
      fun ha hb => ih (by omega) (by omega)
    -- the leading digits are equal iff neither number is smaller
    have heq : units (padded w (m / 10)) = units (padded w (n / 10)) ↔ m / 10 = n / 10 := by
      refine ⟨fun h => ?_, fun h => by rw [h]⟩
      have h1 := (hlt hm hn).not.1 (h ▸ lt_irrefl _)
      have h2 := (hlt hn hm).not.1 (h ▸ lt_irrefl _)
      omega
    have hlength : (units (padded w (m / 10))).length = (units (padded w (n / 10))).length := by
      simp [units]
    rw [padded, padded, units_append, units_append, List.append_lt_append_iff hlength, hlt hm hn, heq,
      units_cons, units_cons, units_nil, List.cons_lt_cons_iff,
      Nat.toNat_digitChar_of_lt_ten (Nat.mod_lt m (by decide)),
      Nat.toNat_digitChar_of_lt_ten (Nat.mod_lt n (by decide))]
    have hirrefl : ¬([] : List ℕ) < [] := lt_irrefl _
    simp only [hirrefl, and_false, or_false]
    omega

theorem padded_inj (hm : m < 10 ^ w) (hn : n < 10 ^ w) :
    units (padded w m) = units (padded w n) ↔ m = n := by
  refine ⟨fun h => ?_, fun h => by rw [h]⟩
  have h1 := (padded_lt_iff hm hn).not.1 (h ▸ lt_irrefl _)
  have h2 := (padded_lt_iff hn hm).not.1 (h ▸ lt_irrefl _)
  omega

/-- **Numerals of one width are compared as numbers.** -/
theorem padded_append_lt_iff (hm : m < 10 ^ w) (hn : n < 10 ^ w) :
    units (padded w m) ++ l < units (padded w n) ++ l' ↔ m < n ∨ m = n ∧ l < l' := by
  have hlength : (units (padded w m)).length = (units (padded w n)).length := by simp [units]
  rw [List.append_lt_append_iff hlength, padded_lt_iff hm hn, padded_inj hm hn]

end Numeral
