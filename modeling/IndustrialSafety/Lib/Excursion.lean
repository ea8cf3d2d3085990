import Mathlib.Data.List.Basic
import Mathlib.Order.Nat

/-!
# Excursions

A list leaves the calm elements and returns to them: `IsExcursion calm l i j` says that the elements from
`i` on are not calm, as many as there are, and that the one at `j` is again. `spans` is the scan that
remembers where the open run began; it finds the excursions (`mem_spans`), each once and in order
(`pairwise_spans`).
-/

namespace Excursion

variable {α : Type} (calm : α → Prop)

/-- A maximal run of elements that are not calm, from `i` on, with a calm one after it, at `j`. -/
structure IsExcursion (l : List α) (i j : ℕ) : Prop where
  lt : i < j
  away : ∀ k, i ≤ k → k < j → ∃ x, l[k]? = some x ∧ ¬calm x
  back : ∃ x, l[j]? = some x ∧ calm x
  maximal : i = 0 ∨ ∃ x, l[i - 1]? = some x ∧ calm x

/-- Where the run that is open before position `k` began, if one is. -/
structure Open (l : List α) (start : Option ℕ) (k : ℕ) : Prop where
  closed : start = none → k = 0 ∨ ∃ x, l[k - 1]? = some x ∧ calm x
  lt : ∀ i ∈ start, i < k
  away : ∀ i ∈ start, ∀ n, i ≤ n → n < k → ∃ x, l[n]? = some x ∧ ¬calm x
  maximal : ∀ i ∈ start, i = 0 ∨ ∃ x, l[i - 1]? = some x ∧ calm x

/-- The element at `j` is calm, and one before it, at `n` or later, is not. -/
def Returns (l : List α) (n j : ℕ) : Prop :=
  (∃ x, l[j]? = some x ∧ calm x) ∧ ∃ k, n ≤ k ∧ k < j ∧ ∃ x, l[k]? = some x ∧ ¬calm x

/-- The scan of the elements from position `k` on. -/
def spans [DecidablePred calm] : Option ℕ → ℕ → List α → List (ℕ × ℕ)
  | _, _, [] => []
  | none, k, x :: xs => spans (if calm x then none else some k) (k + 1) xs
  | some i, k, x :: xs =>
    if calm x then (i, k) :: spans none (k + 1) xs else spans (some i) (k + 1) xs

variable {calm} {l : List α}

theorem IsExcursion.start_unique {i i' j : ℕ} (h : IsExcursion calm l i j)
    (h' : IsExcursion calm l i' j) : i = i' := by
  have hle : ∀ {i i' : ℕ}, IsExcursion calm l i j → IsExcursion calm l i' j → i' ≤ i := by
    intro i i' h h'
    by_contra hlt
    rcases h'.maximal with h0 | ⟨x, hx, hcalm⟩
    · omega
    · have := h'.lt
      obtain ⟨y, hy, hnot⟩ := h.away (i' - 1) (by omega) (by omega)
      rw [hx] at hy
      cases hy
      exact hnot hcalm
  exact le_antisymm (hle h' h) (hle h h')

/-- An excursion does not end where no run is open. -/
theorem Open.not_ends {i k : ℕ} (h : Open calm l none k) : ¬IsExcursion calm l i k := by
  intro hi
  have hlt := hi.lt
  rcases h.closed rfl with h0 | ⟨x, hx, hcalm⟩
  · omega
  · obtain ⟨y, hy, hnot⟩ := hi.away (k - 1) (by omega) (by omega)
    rw [hx] at hy
    cases hy
    exact hnot hcalm

theorem not_ends_of_away {i k : ℕ} {x : α} (hx : l[k]? = some x) (hnot : ¬calm x) :
    ¬IsExcursion calm l i k := by
  intro hi
  obtain ⟨y, hy, hcalm⟩ := hi.back
  rw [hx] at hy
  cases hy
  exact hnot hcalm

theorem open_zero : Open calm l none 0 := ⟨fun _ => .inl rfl, nofun, nofun, nofun⟩

theorem open_of_calm {k : ℕ} {x : α} (hx : l[k]? = some x) (hcalm : calm x) :
    Open calm l none (k + 1) :=
  ⟨fun _ => .inr ⟨x, hx, hcalm⟩, nofun, nofun, nofun⟩

theorem Open.start {k : ℕ} {x : α} (h : Open calm l none k) (hx : l[k]? = some x) (hnot : ¬calm x) :
    Open calm l (some k) (k + 1) := by
  refine ⟨nofun, ?_, ?_, ?_⟩
  all_goals rintro i ⟨⟩
  · exact Nat.lt_succ_self k
  · intro n hin hnk
    obtain rfl : n = k := by omega
    exact ⟨x, hx, hnot⟩
  · exact h.closed rfl

theorem Open.stay {i k : ℕ} {x : α} (h : Open calm l (some i) k) (hx : l[k]? = some x)
    (hnot : ¬calm x) : Open calm l (some i) (k + 1) := by
  refine ⟨nofun, ?_, ?_, ?_⟩
  all_goals rintro i ⟨⟩
  · exact Nat.lt_succ_of_lt (h.lt i rfl)
  · intro n hin hnk
    rcases Nat.lt_succ_iff_lt_or_eq.1 hnk with hnk | rfl
    · exact h.away i rfl n hin hnk
    · exact ⟨x, hx, hnot⟩
  · exact h.maximal i rfl

theorem Open.ends {i k : ℕ} {x : α} (h : Open calm l (some i) k) (hx : l[k]? = some x)
    (hcalm : calm x) : IsExcursion calm l i k :=
  ⟨h.lt i rfl, h.away i rfl, ⟨x, hx, hcalm⟩, h.maximal i rfl⟩

variable [DecidablePred calm]

/-- The scan from position `k` on finds the excursions that end there or later. -/
theorem mem_spans_of_open {start : Option ℕ} {k : ℕ} {xs : List α} (hxs : l.drop k = xs)
    (h : Open calm l start k) {i j : ℕ} :
    (i, j) ∈ spans calm start k xs ↔ IsExcursion calm l i j ∧ k ≤ j := by
  induction xs generalizing start k with
  | nil =>
    refine iff_of_false (by cases start <;> simp [spans]) ?_
    rintro ⟨hi, hkj⟩
    obtain ⟨x, hx, -⟩ := hi.back
    have hlen := (List.getElem?_eq_some_iff.1 hx).1
    rw [List.drop_eq_nil_iff] at hxs
    omega
  | cons x xs ih =>
    have hx : l[k]? = some x := by
      rw [← List.head?_drop, hxs]
      rfl
    have hrest : l.drop (k + 1) = xs := by
      rw [← List.tail_drop, hxs]
      rfl
    -- where none ends at `k`, the excursions are those found later
    have hlater : (∀ i, ¬IsExcursion calm l i k) →
        (IsExcursion calm l i j ∧ k + 1 ≤ j ↔ IsExcursion calm l i j ∧ k ≤ j) := by
      intro hnone
      refine and_congr_right fun hi => ⟨fun hkj => by omega, fun hkj => ?_⟩
      rcases hkj.lt_or_eq with hlt | rfl
      · exact hlt
      · exact absurd hi (hnone i)
    by_cases hcalm : calm x
    · cases start with
      | none =>
        rw [spans, if_pos hcalm, ih hrest (open_of_calm hx hcalm)]
        exact hlater fun _ => h.not_ends
      | some i' =>
        have hends := h.ends hx hcalm
        rw [spans, if_pos hcalm, List.mem_cons, ih hrest (open_of_calm hx hcalm), Prod.mk.injEq]
        constructor
        · rintro (⟨rfl, rfl⟩ | ⟨hi, hkj⟩)
          · exact ⟨hends, le_rfl⟩
          · exact ⟨hi, by omega⟩
        · rintro ⟨hi, hkj⟩
          rcases hkj.lt_or_eq with hlt | rfl
          · exact .inr ⟨hi, hlt⟩
          · exact .inl ⟨hi.start_unique hends, rfl⟩
    · cases start with
      | none =>
        rw [spans, if_neg hcalm, ih hrest (h.start hx hcalm)]
        exact hlater fun _ => not_ends_of_away hx hcalm
      | some i' =>
        rw [spans, if_neg hcalm, ih hrest (h.stay hx hcalm)]
        exact hlater fun _ => not_ends_of_away hx hcalm

/-- **The scan finds the excursions.** -/
theorem mem_spans {i j : ℕ} : (i, j) ∈ spans calm none 0 l ↔ IsExcursion calm l i j := by
  rw [mem_spans_of_open List.drop_zero open_zero]
  simp

/-- What the scan finds began where the open run did, or later. -/
theorem start_of_mem_spans {start : Option ℕ} {k : ℕ} {xs : List α} {p : ℕ × ℕ}
    (hp : p ∈ spans calm start k xs) : start = some p.1 ∨ k ≤ p.1 := by
  induction xs generalizing start k with
  | nil => cases start <;> cases hp
  | cons x xs ih =>
    cases start with
    | none =>
      rw [spans] at hp
      right
      rcases ih hp with hstart | hle
      · split at hstart
        · cases hstart
        · cases hstart
          exact le_rfl
      · omega
    | some i =>
      rw [spans] at hp
      split at hp
      · rcases List.mem_cons.1 hp with rfl | hp
        · exact .inl rfl
        · rcases ih hp with hstart | hle
          · cases hstart
          · exact .inr (by omega)
      · rcases ih hp with hstart | hle
        · exact .inl hstart
        · exact .inr (by omega)

/-- The excursions are found in order, each one after the end of the one before. -/
theorem pairwise_spans {start : Option ℕ} {k : ℕ} {xs : List α} :
    (spans calm start k xs).Pairwise fun p q => p.2 < q.1 := by
  induction xs generalizing start k with
  | nil => cases start <;> exact .nil
  | cons x xs ih =>
    cases start with
    | none => exact ih
    | some i =>
      rw [spans]
      split
      · refine List.pairwise_cons.2 ⟨fun q hq => ?_, ih⟩
        rcases start_of_mem_spans hq with hstart | hle
        · cases hstart
        · exact hle
      · exact ih

/-! ## Returns after a position -/

omit [DecidablePred calm] in
/-- A run that is not calm before position `j` began somewhere. -/
theorem exists_start {n j : ℕ} (hnj : n < j)
    (haway : ∀ k, n ≤ k → k < j → ∃ x, l[k]? = some x ∧ ¬calm x) :
    ∃ i ≤ n, (∀ k, i ≤ k → k < j → ∃ x, l[k]? = some x ∧ ¬calm x) ∧
      (i = 0 ∨ ∃ x, l[i - 1]? = some x ∧ calm x) := by
  induction n with
  | zero => exact ⟨0, le_rfl, haway, .inl rfl⟩
  | succ n ih =>
    obtain ⟨y, hy, -⟩ := haway (n + 1) le_rfl hnj
    have hn : n < l.length := by
      have := (List.getElem?_eq_some_iff.1 hy).1
      omega
    by_cases hcalm : calm l[n]
    · exact ⟨n + 1, le_rfl, haway, .inr ⟨l[n], List.getElem?_eq_getElem hn, hcalm⟩⟩
    · obtain ⟨i, hin, hi⟩ := ih (by omega) fun k hnk hkj => by
        rcases hnk.eq_or_lt with rfl | hlt
        · exact ⟨l[n], List.getElem?_eq_getElem hn, hcalm⟩
        · exact haway k hlt hkj
      exact ⟨i, by omega, hi⟩

omit [DecidablePred calm] in
/-- An excursion ends after position `n` where the list returns. -/
theorem exists_ends_after {n : ℕ} :
    (∃ i j, IsExcursion calm l i j ∧ n < j) ↔ ∃ j, Returns calm l n j := by
  constructor
  · rintro ⟨i, j, h, hnj⟩
    have hlt := h.lt
    exact ⟨j, h.back, j - 1, by omega, by omega, h.away (j - 1) (by omega) (by omega)⟩
  · rintro ⟨j, hj, k, hnk, hkj, hk⟩
    -- the first calm element after `k` ends the run of `k`
    induction j using Nat.strong_induction_on with
    | _ j ih =>
      by_cases haway : ∀ m, k ≤ m → m < j → ∃ x, l[m]? = some x ∧ ¬calm x
      · obtain ⟨i, hik, haway, hmaximal⟩ := exists_start hkj haway
        exact ⟨i, j, ⟨by omega, haway, hj, hmaximal⟩, by omega⟩
      · push Not at haway
        obtain ⟨m, hkm, hmj, hm⟩ := haway
        have hlen : m < l.length := by
          obtain ⟨y, hy, -⟩ := hj
          have := (List.getElem?_eq_some_iff.1 hy).1
          omega
        have hcalm := hm l[m] (List.getElem?_eq_getElem hlen)
        rcases hkm.eq_or_lt with rfl | hlt
        · obtain ⟨x, hx, hnot⟩ := hk
          exact absurd (hm x hx) hnot
        · exact ih m hmj ⟨_, List.getElem?_eq_getElem hlen, hcalm⟩ hlt

omit [DecidablePred calm] in
theorem returns_next {n j : ℕ} (h : Returns calm l n j) : n < j := by
  obtain ⟨-, k, hnk, hkj, -⟩ := h
  omega

omit [DecidablePred calm] in
/-- A return is not to the element after a calm one. -/
theorem not_returns_succ {n : ℕ} {x : α} (hx : l[n]? = some x) (hcalm : calm x) :
    ¬Returns calm l n (n + 1) := by
  rintro ⟨-, k, hnk, hkj, y, hy, hnot⟩
  obtain rfl : k = n := by omega
  rw [hx] at hy
  cases hy
  exact hnot hcalm

omit [DecidablePred calm] in
/-- From an element that is not calm, or one before such an element, every later calm one is a return. -/
theorem returns_iff {n j : ℕ} {x : α} (hx : l[n]? = some x)
    (h : calm x → ∀ y, l[n + 1]? = some y → ¬calm y) :
    Returns calm l n j ↔ n < j ∧ ∃ y, l[j]? = some y ∧ calm y := by
  refine ⟨fun hj => ⟨returns_next hj, hj.1⟩, ?_⟩
  rintro ⟨hnj, y, hy, hcalm⟩
  refine ⟨⟨y, hy, hcalm⟩, ?_⟩
  by_cases hn : calm x
  · have hne : j ≠ n + 1 := by
      rintro rfl
      exact h hn y hy hcalm
    have hj := (List.getElem?_eq_some_iff.1 hy).1
    obtain ⟨z, hz⟩ : ∃ z, l[n + 1]? = some z := ⟨_, List.getElem?_eq_getElem (by omega)⟩
    exact ⟨n + 1, by omega, by omega, z, hz, h hn z hz⟩
  · exact ⟨n, le_rfl, hnj, x, hx, hn⟩

/-- The search after position `n` finds the first calm element there. -/
theorem find?_drop {n : ℕ} {x : α} (h : (l.drop (n + 1)).find? (calm ·) = some x) :
    ∃ j, IsLeast {j | n < j ∧ ∃ y, l[j]? = some y ∧ calm y} j ∧ l[j]? = some x := by
  obtain ⟨hcalm, i, hi, hget, hfirst⟩ := List.find?_eq_some_iff_getElem.1 h
  rw [List.getElem_drop] at hget
  rw [List.length_drop] at hi
  have hx : l[n + 1 + i]? = some x := by rw [← hget, List.getElem?_eq_getElem]
  refine ⟨n + 1 + i, ⟨⟨by omega, x, hx, by simpa using hcalm⟩, ?_⟩, hx⟩
  rintro j ⟨hnj, y, hy, hcalm⟩
  by_contra hlt
  have hnot := hfirst (j - (n + 1)) (by omega)
  simp only [List.getElem_drop, show n + 1 + (j - (n + 1)) = j by omega] at hnot
  obtain ⟨hj, rfl⟩ := List.getElem?_eq_some_iff.1 hy
  simp [hcalm] at hnot

theorem find?_drop_none {n : ℕ} (h : (l.drop (n + 1)).find? (calm ·) = none) {j : ℕ} (hnj : n < j)
    {y : α} (hy : l[j]? = some y) : ¬calm y := by
  obtain ⟨hj, rfl⟩ := List.getElem?_eq_some_iff.1 hy
  have hmem : l[j] ∈ l.drop (n + 1) := List.mem_drop_iff_getElem.2
    ⟨j - (n + 1), by omega, by congr 1; omega⟩
  simpa using List.find?_eq_none.1 h _ hmem

omit [DecidablePred calm] in
/-- The excursions of a list seen through a function. -/
theorem isExcursion_map {β : Type} (f : β → α) {l : List β} {i j : ℕ} :
    IsExcursion calm (l.map f) i j ↔ IsExcursion (fun x => calm (f x)) l i j := by
  have hget : ∀ (P : α → Prop) (k : ℕ), (∃ x, (l.map f)[k]? = some x ∧ P x) ↔
      ∃ y, l[k]? = some y ∧ P (f y) := by
    intro P k
    rw [List.getElem?_map]
    constructor
    · rintro ⟨x, hx, hP⟩
      obtain ⟨y, hy, rfl⟩ := Option.map_eq_some_iff.1 hx
      exact ⟨y, hy, hP⟩
    · rintro ⟨y, hy, hP⟩
      exact ⟨f y, by rw [hy]; rfl, hP⟩
  constructor
  · rintro ⟨hlt, haway, hback, hmaximal⟩
    exact ⟨hlt, fun k hik hkj => (hget _ k).1 (haway k hik hkj), (hget _ j).1 hback,
      hmaximal.imp_right (hget _ _).1⟩
  · rintro ⟨hlt, haway, hback, hmaximal⟩
    exact ⟨hlt, fun k hik hkj => (hget _ k).2 (haway k hik hkj), (hget _ j).2 hback,
      hmaximal.imp_right (hget _ _).2⟩

end Excursion
