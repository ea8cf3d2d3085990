import Mathlib.Data.List.Forall2

/-!
# Loops that may run out of fuel

A loop over computations that read and write a state, and return nothing when their fuel has run out: it
returns where each of them does (`mapM_isSome`), also when they have more fuel (`mapM_mono`), and keeps
what each of them keeps (`mapM_spec`).
-/

namespace Fuel

variable {σ α β : Type} {f g : α → StateT σ Option β} {l : List α} {s s' : σ} {bs : List β}

theorem mapM_cons_eq_some {a : α} : (a :: l).mapM f s = some (bs, s') ↔
    ∃ b s₁ bs', f a s = some (b, s₁) ∧ l.mapM f s₁ = some (bs', s') ∧ bs = b :: bs' := by
  rw [List.mapM_cons]
  show ((f a s).bind fun p => (l.mapM f p.2).bind fun q => some (p.1 :: q.1, q.2)) = _ ↔ _
  simp only [Option.bind_eq_some_iff, Prod.exists, Option.some.injEq, Prod.mk.injEq]
  constructor
  · rintro ⟨b, s₁, hb, bs', s₂, hbs, rfl, rfl⟩
    exact ⟨b, s₁, bs', hb, hbs, rfl⟩
  · rintro ⟨b, s₁, bs', hb, hbs, rfl⟩
    exact ⟨b, s₁, hb, bs', s', hbs, rfl, rfl⟩

theorem mapM_isSome (h : ∀ a ∈ l, ∀ s, (f a s).isSome) (s : σ) : (l.mapM f s).isSome := by
  induction l generalizing s with
  | nil => rfl
  | cons a l ih =>
    rw [List.forall_mem_cons] at h
    obtain ⟨⟨b, s₁⟩, hb⟩ := Option.isSome_iff_exists.1 (h.1 s)
    obtain ⟨⟨bs, s'⟩, hbs⟩ := Option.isSome_iff_exists.1 (ih h.2 s₁)
    exact Option.isSome_iff_exists.2 ⟨_, mapM_cons_eq_some.2 ⟨b, s₁, bs, hb, hbs, rfl⟩⟩

theorem mapM_mono (hle : ∀ a ∈ l, ∀ s p, f a s = some p → g a s = some p)
    (h : l.mapM f s = some (bs, s')) : l.mapM g s = some (bs, s') := by
  induction l generalizing s bs with
  | nil => exact h
  | cons a l ih =>
    rw [List.forall_mem_cons] at hle
    obtain ⟨b, s₁, bs', hb, hbs, rfl⟩ := mapM_cons_eq_some.1 h
    exact mapM_cons_eq_some.2 ⟨b, s₁, bs', hle.1 _ _ hb, ih hle.2 hbs, rfl⟩

/-- An invariant of the state, and what each computation returns under it. -/
theorem mapM_spec {I : σ → Prop} {S : α → β → Prop}
    (hstep : ∀ a ∈ l, ∀ s b s', I s → f a s = some (b, s') → I s' ∧ S a b) (hs : I s)
    (h : l.mapM f s = some (bs, s')) : I s' ∧ List.Forall₂ S l bs := by
  induction l generalizing s bs with
  | nil =>
    cases h
    exact ⟨hs, .nil⟩
  | cons a l ih =>
    rw [List.forall_mem_cons] at hstep
    obtain ⟨b, s₁, bs', hb, hbs, rfl⟩ := mapM_cons_eq_some.1 h
    obtain ⟨hs₁, hab⟩ := hstep.1 _ _ _ hs hb
    obtain ⟨hs', hall⟩ := ih hstep.2 hs₁ hbs
    exact ⟨hs', .cons hab hall⟩

end Fuel
