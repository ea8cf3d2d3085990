import IndustrialSafety.Lib.Transaction
import Mathlib.Data.List.Perm.Basic

/-!
# Steps in another order

`Runs step l s t`: the steps of `l`, one after the other, lead from `s` to `t`. Independent neighbours may
change places, up to an equivalence that the steps respect (`Commuting`). So of two orders that agree on
the steps which are not independent, if one runs then so does the other, to an equivalent state
(`Commuting.runs_perm`).
-/

namespace Commute

variable {σ τ : Type} {step : τ → σ → σ → Prop} {I : σ → Prop} {Q : σ → σ → Prop}
  {indep r : τ → τ → Prop} {l l' : List τ} {a : τ} {s t u : σ}

inductive Runs (step : τ → σ → σ → Prop) : List τ → σ → σ → Prop
  | nil (s : σ) : Runs step [] s s
  | cons {a : τ} {l : List τ} {s t u : σ} (first : step a s t) (rest : Runs step l t u) :
    Runs step (a :: l) s u

/-- In the states of `I`, the steps respect an equivalence and independent ones commute up to it. -/
structure Commuting (step : τ → σ → σ → Prop) (I : σ → Prop) (Q : σ → σ → Prop)
    (indep : τ → τ → Prop) : Prop where
  keeps : ∀ a s t, I s → step a s t → I t
  refl : ∀ s, Q s s
  trans : ∀ s t u, Q s t → Q t u → Q s u
  respects : ∀ a s s' t, I s → I s' → Q s s' → step a s t → ∃ t', step a s' t' ∧ Q t t'
  swap : ∀ a b s t u, I s → indep a b → step a s t → step b t u →
    ∃ t' u', step b s t' ∧ step a t' u' ∧ Q u u'

namespace Commuting

theorem runs_respects (h : Commuting step I Q indep) (hs : I s) (hu : I u) (hQ : Q s u)
    (hrun : Runs step l s t) : ∃ t', Runs step l u t' ∧ Q t t' := by
  induction hrun generalizing u with
  | nil s => exact ⟨u, .nil u, hQ⟩
  | cons hfirst _ ih =>
    obtain ⟨u', hstep, hQ'⟩ := h.respects _ _ _ _ hs hu hQ hfirst
    obtain ⟨t', hrest, hQ''⟩ := ih (h.keeps _ _ _ hs hfirst) (h.keeps _ _ _ hu hstep) hQ'
    exact ⟨t', .cons hstep hrest, hQ''⟩

/-- A step moves behind steps that it is independent of. -/
theorem runs_move (h : Commuting step I Q indep) (hs : I s) (hl : ∀ b ∈ l, indep a b)
    (hrun : Runs step (a :: l ++ l') s t) : ∃ t', Runs step (l ++ a :: l') s t' ∧ Q t t' := by
  induction l generalizing s t with
  | nil => exact ⟨t, hrun, h.refl t⟩
  | cons b l ih =>
    cases hrun with | cons ha hrest =>
    cases hrest with | cons hb hrest =>
    obtain ⟨s₁, s₂, hb', ha', hQ⟩ := h.swap a b _ _ _ hs (hl b (.head _)) ha hb
    have hs₁ := h.keeps _ _ _ hs hb'
    obtain ⟨t₁, hrest', hQ₁⟩ := h.runs_respects (h.keeps _ _ _ (h.keeps _ _ _ hs ha) hb)
      (h.keeps _ _ _ hs₁ ha') hQ hrest
    obtain ⟨t₂, hmoved, hQ₂⟩ := ih hs₁ (fun b hb => hl b (.tail _ hb)) (.cons ha' hrest')
    exact ⟨t₂, .cons hb' hmoved, h.trans _ _ _ hQ₁ hQ₂⟩

/-- Two orders of the same steps, in which only independent steps change places. -/
theorem runs_perm (h : Commuting step I Q indep)
    (hindep : ∀ a ∈ l, ∀ b ∈ l, a ≠ b → r a b → r b a → indep a b) (hnodup : l.Nodup)
    (hperm : l.Perm l') (hl : l.Pairwise r) (hl' : l'.Pairwise r) (hs : I s)
    (hrun : Runs step l s t) : ∃ t', Runs step l' s t' ∧ Q t t' := by
  induction l generalizing l' s t with
  | nil =>
    rw [hperm.nil_eq] at hrun
    exact ⟨t, hrun, h.refl t⟩
  | cons a l ih =>
    -- what stands before the first step in the other order is independent of it
    obtain ⟨front, back, rfl⟩ := List.append_of_mem (hperm.mem_iff.1 List.mem_cons_self)
    have hrest : l.Perm (front ++ back) := (hperm.trans List.perm_middle).cons_inv
    rw [List.nodup_cons] at hnodup
    rw [List.pairwise_cons] at hl
    rw [List.pairwise_append, List.pairwise_cons] at hl'
    obtain ⟨hfront, ⟨-, hback⟩, hacross⟩ := hl'
    have hindep' : ∀ b ∈ front, indep a b := fun b hb =>
      have hb' := hrest.mem_iff.2 (List.mem_append_left _ hb)
      hindep a (.head _) b (.tail _ hb') (fun hab => hnodup.1 (hab ▸ hb')) (hl.1 b hb')
        (hacross b hb a (.head _))
    have hsorted : (front ++ back).Pairwise r := List.pairwise_append.2
      ⟨hfront, hback, fun b hb c hc => hacross b hb c (.tail _ hc)⟩
    cases hrun with | cons hfirst hrun =>
    obtain ⟨t₁, hrun₁, hQ₁⟩ := ih (fun a ha b hb => hindep a (.tail _ ha) b (.tail _ hb)) hnodup.2
      hrest hl.2 hsorted (h.keeps _ _ _ hs hfirst) hrun
    obtain ⟨t₂, hrun₂, hQ₂⟩ := h.runs_move hs hindep' (.cons hfirst hrun₁)
    exact ⟨t₂, hrun₂, h.trans _ _ _ hQ₁ hQ₂⟩

end Commuting

/-! ## Loops -/

/-- A loop that returns is a run of its steps. -/
theorem mapM_returns {ε α β : Type} {f : α → Service ε σ β} {l : List α} {s t : σ} :
    (∃ bs, l.mapM f s = (.ok bs, t)) ↔ Runs (fun a s t => ∃ b, f a s = (.ok b, t)) l s t := by
  induction l generalizing s with
  | nil =>
    constructor
    · rintro ⟨bs, h⟩
      obtain ⟨-, rfl⟩ := Service.mapM_nil_eq_ok.1 h
      exact .nil _
    · rintro ⟨⟩
      exact ⟨[], Service.mapM_nil_eq_ok.2 ⟨rfl, rfl⟩⟩
  | cons a l ih =>
    constructor
    · rintro ⟨bs, h⟩
      obtain ⟨b, s₁, bs', hb, hbs, -⟩ := Service.mapM_cons_eq_ok.1 h
      exact .cons ⟨b, hb⟩ (ih.1 ⟨bs', hbs⟩)
    · rintro (_ | ⟨⟨b, hb⟩, hrest⟩)
      obtain ⟨bs, hbs⟩ := ih.2 hrest
      exact ⟨b :: bs, Service.mapM_cons_eq_ok.2 ⟨b, _, bs, hb, hbs, rfl⟩⟩

end Commute
