import Mathlib.Data.List.Pairwise
import Mathlib.Data.List.Sort
import Mathlib.Order.Defs.LinearOrder

/-!
# Sorting by a key, the greatest first

`Descending key l sorted`: `sorted` has the elements of `l` with non-increasing keys, and those of one
key in the order of `l`. It is what a stable sort gives (`descending_insertionSort`).
-/

namespace StableSort

variable {α κ : Type} [LinearOrder κ] {key : α → κ}

structure Descending (key : α → κ) (l sorted : List α) : Prop where
  perm : sorted.Perm l
  pairwise : sorted.Pairwise fun a b => key b ≤ key a
  stable : ∀ k, sorted.filter (key · = k) = l.filter (key · = k)

/-- A sort keeps the order of the elements that are sorted already. -/
theorem filter_insertionSort {r : α → α → Prop} [DecidableRel r] [Std.Total r] [IsTrans α r] {p : α → Bool}
    {l : List α} (h : (l.filter p).Pairwise r) : (l.insertionSort r).filter p = l.filter p := by
  have hsub := (List.sublist_insertionSort h List.filter_sublist).filter p
  rw [List.filter_filter] at hsub
  simp only [Bool.and_self] at hsub
  exact (hsub.eq_of_length ((List.perm_insertionSort r l).filter _).length_eq.symm).symm

theorem descending_insertionSort (l : List α) :
    Descending key l (l.insertionSort fun a b => key b ≤ key a) := by
  have htotal : Std.Total fun a b : α => key b ≤ key a := ⟨fun a b => le_total (key b) (key a)⟩
  have htrans : IsTrans α fun a b => key b ≤ key a := ⟨fun _ _ _ hab hbc => hbc.trans hab⟩
  refine ⟨List.perm_insertionSort _ l, List.pairwise_insertionSort _ l, fun k => ?_⟩
  -- the elements of one key are sorted already
  refine filter_insertionSort (List.pairwise_of_forall_mem_list fun a ha b hb => ?_)
  have ha : key a = k := by simpa using (List.mem_filter.1 ha).2
  have hb : key b = k := by simpa using (List.mem_filter.1 hb).2
  rw [ha, hb]

theorem pairwise_iff_forall {r P : α → α → Prop} {l : List α} (hsorted : l.Pairwise r)
    (hasymm : ∀ a b, r a b → ¬r b a) : l.Pairwise P ↔ ∀ a ∈ l, ∀ b ∈ l, r a b → P a b := by
  constructor
  · intro h a ha b hb hab
    -- two elements of the list come one after the other, in one of the two orders
    let Either (x y : α) : Prop := (r x y → P x y) ∧ (r y x → P y x)
    have : Std.Symm Either := ⟨fun _ _ h => ⟨h.2, h.1⟩⟩
    have hself : ∀ x ∈ l, Either x x := fun x _ =>
      ⟨fun hx => absurd hx (hasymm x x hx), fun hx => absurd hx (hasymm x x hx)⟩
    have hall := List.Pairwise.forall_of_forall hself ((hsorted.and h).imp fun {x y} hxy =>
      ⟨fun _ => hxy.2, fun hyx => absurd hyx (hasymm x y hxy.1)⟩)
    exact (hall ha hb).1 hab
  · intro h
    exact hsorted.imp_of_mem fun {a b} ha hb hab => h a ha b hb hab

/-- A query gets the same from lists with the same elements, if it selects no two with one key. -/
theorem filter_insertionSort_perm {p : α → Bool} {l l' : List α} (hperm : l.Perm l')
    (hdistinct : ∀ a ∈ l, ∀ b ∈ l, p a → p b → key a = key b → a = b) :
    (l.insertionSort fun a b => key a ≤ key b).filter p =
      (l'.insertionSort fun a b => key a ≤ key b).filter p := by
  have htotal : Std.Total fun a b : α => key a ≤ key b := ⟨fun a b => le_total (key a) (key b)⟩
  have htrans : IsTrans α fun a b => key a ≤ key b := ⟨fun _ _ _ hab hbc => hab.trans hbc⟩
  have hsorted : ∀ l : List α, ((l.insertionSort fun a b => key a ≤ key b).filter p).Pairwise
      fun a b => key a ≤ key b := fun l =>
    (List.pairwise_insertionSort _ l).sublist List.filter_sublist
  refine List.Perm.eq_of_pairwise (fun a b ha hb hab hba => ?_) (hsorted l) (hsorted l')
    (((List.perm_insertionSort _ l).trans (hperm.trans (List.perm_insertionSort _ l').symm)).filter p)
  obtain ⟨ha, hpa⟩ := List.mem_filter.1 ha
  obtain ⟨hb, hpb⟩ := List.mem_filter.1 hb
  rw [List.mem_insertionSort] at ha hb
  exact hdistinct a ha b (hperm.mem_iff.2 hb) hpa hpb (le_antisymm hab hba)

end StableSort
