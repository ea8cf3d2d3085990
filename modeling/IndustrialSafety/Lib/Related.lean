import IndustrialSafety.Lib.Result
import Mathlib.Data.List.Perm.Basic

/-!
# Computations that agree

`Related E rel x y`: both computations return, with `rel`-related values, or both raise, with
`E`-related exceptions. Sequencing and loops keep the relation (`Related.bind`, `Related.mapM`); a loop over the same elements in
another order returns the same values in another order, or raises as well (`Related.mapM_perm`).
-/

namespace Except

open List

variable {ε ε' α β γ δ : Type} {E : ε → ε' → Prop} {rel : α → β → Prop} {rel' : γ → δ → Prop}

inductive Related (E : ε → ε' → Prop) (rel : α → β → Prop) : Except ε α → Except ε' β → Prop
  | ok {a : α} {b : β} (h : rel a b) : Related E rel (.ok a) (.ok b)
  | error {e : ε} {e' : ε'} (h : E e e') : Related E rel (.error e) (.error e')

/-- Any two exceptions. -/
def AnyError (_ : ε) (_ : ε') : Prop := True

theorem mapM_eq_ok_perm {f : α → Except ε β} {l l' : List α} {ys : List β} (h : l ~ l')
    (hys : l.mapM f = .ok ys) : ∃ ys', l'.mapM f = .ok ys' ∧ ys ~ ys' := by
  obtain ⟨ys', hys', hperm⟩ := perm_comp_forall₂ h.symm (mapM_eq_ok.1 hys)
  exact ⟨ys', mapM_eq_ok.2 hys', hperm.symm⟩

/-- Where the left elements determine the right ones, the same selected left elements have the same selected
right ones. -/
theorem filter_forall₂_congr {rel : α → β → Prop} (hunique : Relator.RightUnique rel) {p : α → Bool}
    {q : β → Bool} (hpq : ∀ x y, rel x y → (p x ↔ q y)) {l l' : List α} {ys ys' : List β}
    (hfilter : l'.filter p = l.filter p) (h : Forall₂ rel l ys) (h' : Forall₂ rel l' ys') :
    ys'.filter q = ys.filter q := by
  refine right_unique_forall₂' hunique ?_ (rel_filter (fun x y => hpq x y) h)
  rw [← hfilter]
  exact rel_filter (fun x y => hpq x y) h'

/-- A loop over lists with the same selected elements returns the same for these. -/
theorem filter_mapM_congr {f : α → Except ε β} {p : α → Bool} {q : β → Bool} {l l' : List α}
    {ys ys' : List β} (hpq : ∀ x y, f x = .ok y → (p x ↔ q y)) (hfilter : l'.filter p = l.filter p)
    (h : l.mapM f = .ok ys) (h' : l'.mapM f = .ok ys') : ys'.filter q = ys.filter q :=
  filter_forall₂_congr (fun _ _ _ hy hy' => Except.ok.inj (hy.symm.trans hy')) hpq hfilter
    (mapM_eq_ok.1 h) (mapM_eq_ok.1 h')

namespace Related

theorem refl {rel : α → α → Prop} (h : ∀ a, rel a a) : ∀ x : Except ε α, Related Eq rel x x
  | .ok a => .ok (h a)
  | .error _ => .error rfl

theorem mono {x : Except ε α} {y : Except ε' β} {E' : ε → ε' → Prop} {rel' : α → β → Prop}
    (h : Related E rel x y) (hE : ∀ e e', E e e' → E' e e') (hrel : ∀ a b, rel a b → rel' a b) :
    Related E' rel' x y := by
  cases h with
  | ok h => exact .ok (hrel _ _ h)
  | error h => exact .error (hE _ _ h)

/-- What follows only has to agree on what the first computations return. -/
theorem bind {x : Except ε α} {y : Except ε' β} {f : α → Except ε γ} {g : β → Except ε' δ}
    (h : Related E rel x y)
    (hf : ∀ a b, x = .ok a → y = .ok b → rel a b → Related E rel' (f a) (g b)) :
    Related E rel' (x >>= f) (y >>= g) := by
  cases h with
  | ok h => exact hf _ _ rfl rfl h
  | error h => exact .error h

/-- The same loop in two ways. -/
theorem mapM {τ : Type} {f : τ → Except ε α} {g : τ → Except ε' β} {l : List τ}
    (h : ∀ x ∈ l, Related E rel (f x) (g x)) :
    Related E (Forall₂ rel) (l.mapM f) (l.mapM g) := by
  induction l with
  | nil => exact .ok .nil
  | cons x l ih =>
    rw [List.mapM_cons, List.mapM_cons]
    refine bind (h x (by simp)) fun a b _ _ hab => ?_
    exact bind (ih fun y hy => h y (by simp [hy])) fun as bs _ _ habs => .ok (.cons hab habs)

theorem eq {x y : Except ε α} (h : Related Eq Eq x y) : x = y := by
  cases h with
  | ok h => rw [h]
  | error h => rw [h]

/-- The exception may depend on the order. -/
theorem mapM_perm {f : α → Except ε β} {l l' : List α} (h : l ~ l') :
    Related AnyError Perm (l.mapM f) (l'.mapM f) := by
  cases hl : l.mapM f with
  | ok ys =>
    obtain ⟨ys', hys', hperm⟩ := mapM_eq_ok_perm h hl
    rw [hys']
    exact .ok hperm
  | error e =>
    cases hl' : l'.mapM f with
    | ok ys' =>
      obtain ⟨ys, hys, -⟩ := mapM_eq_ok_perm h.symm hl'
      cases hl.symm.trans hys
    | error e' => exact .error trivial

end Related

end Except
