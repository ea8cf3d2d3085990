import IndustrialSafety.Lib.Result
import Mathlib.Data.List.Chain
import Mathlib.Logic.Relation
import Mathlib.Order.Bounds.Basic

/-!
# Heights

`Height.IsHeight r a n`: the longest chain of `r` from `a` has `n` steps. The height of an element is one
more than the greatest height of its successors (`isHeight_succ`), and falls along `r`
(`IsHeight.lt`).
-/

namespace Height

variable {α : Type} {r : α → α → Prop} {a b : α} {m n : ℕ}

/-- A chain of `n` steps goes down from `a`. -/
def HasChain (r : α → α → Prop) (a : α) (n : ℕ) : Prop :=
  ∃ l : List α, (a :: l).IsChain r ∧ l.length = n

def IsHeight (r : α → α → Prop) (a : α) (n : ℕ) : Prop :=
  IsGreatest {n | HasChain r a n} n

theorem hasChain_zero (a : α) : HasChain r a 0 := ⟨[], .singleton a, rfl⟩

theorem hasChain_succ : HasChain r a (n + 1) ↔ ∃ b, r a b ∧ HasChain r b n := by
  constructor
  · rintro ⟨l, hchain, hlength⟩
    cases l with
    | nil => cases hlength
    | cons b l =>
      rw [List.isChain_cons_cons] at hchain
      exact ⟨b, hchain.1, l, hchain.2, Nat.succ.inj hlength⟩
  · rintro ⟨b, hab, l, hchain, rfl⟩
    exact ⟨b :: l, List.isChain_cons_cons.2 ⟨hab, hchain⟩, rfl⟩

theorem IsHeight.unique (hm : IsHeight r a m) (hn : IsHeight r a n) : m = n :=
  IsGreatest.unique hm hn

/-- An element without successors. -/
theorem isHeight_zero (h : ∀ b, ¬r a b) : IsHeight r a 0 := by
  refine ⟨hasChain_zero a, fun n hn => ?_⟩
  cases n with
  | zero => exact le_rfl
  | succ n =>
    obtain ⟨b, hab, -⟩ := hasChain_succ.1 hn
    exact absurd hab (h b)

/-- The height from the heights of the successors. -/
theorem isHeight_succ {bs : List α} {heights : List ℕ} (hbs : ∀ b, r a b ↔ b ∈ bs)
    (h : List.Forall₂ (IsHeight r) bs heights) (hmax : heights.max? = some m) :
    IsHeight r a (1 + m) := by
  obtain ⟨hmem, hle⟩ := List.max?_eq_some_iff.1 hmax
  obtain ⟨b, hb, hheight⟩ := h.exists_of_mem_right hmem
  rw [Nat.add_comm]
  refine ⟨hasChain_succ.2 ⟨b, (hbs b).2 hb, hheight.1⟩, fun n hn => ?_⟩
  cases n with
  | zero => exact Nat.zero_le _
  | succ n =>
    obtain ⟨c, hac, hchain⟩ := hasChain_succ.1 hn
    obtain ⟨k, hk, hc⟩ := h.exists_of_mem_left ((hbs c).1 hac)
    exact Nat.succ_le_succ ((hc.2 hchain).trans (hle k hk))

/-- Heights fall. -/
theorem IsHeight.lt (hab : r a b) (hm : IsHeight r a m) (hn : IsHeight r b n) : n < m :=
  hm.2 (hasChain_succ.2 ⟨b, hab, hn.1⟩)

/-- Where something falls along `r` there is no cycle. -/
theorem acyclic_of_lt (rank : α → ℕ) (h : ∀ a b, r a b → rank b < rank a) (a : α) :
    ¬Relation.TransGen r a a := by
  have hpath : ∀ b, Relation.TransGen r a b → rank b < rank a := by
    intro b hb
    induction hb with
    | single hab => exact h _ _ hab
    | tail _ hbc ih => exact (h _ _ hbc).trans ih
  exact fun hcycle => lt_irrefl _ (hpath a hcycle)

end Height
