import IndustrialSafety.Lib.Transaction

/-!
# What a service yields

`Yields I Q m`: from every state with `I`, the service `m` ends in a state with `I`, whether it returns or
raises, and what it returns satisfies `Q`. Sequencing and loops pass `Q` on (`Yields.bind`,
`Yields.mapM_forall₂`).
-/

namespace Service

variable {ε ε' σ α β : Type} {I : σ → Prop} {Q : α → Prop} {P : β → Prop}

def Yields (I : σ → Prop) (Q : α → Prop) (m : Service ε σ α) : Prop :=
  ∀ s, I s → I (m s).2 ∧ ∀ a, (m s).1 = .ok a → Q a

namespace Yields

theorem mono {Q' : α → Prop} {m : Service ε σ α} (h : Yields I Q m) (hQ : ∀ a, Q a → Q' a) :
    Yields I Q' m :=
  fun s hs => ⟨(h s hs).1, fun a ha => hQ a ((h s hs).2 a ha)⟩

theorem pure {a : α} (h : Q a) : Yields I Q (Pure.pure a : Service ε σ α) := by
  refine fun s hs => ⟨hs, fun b hb => ?_⟩
  cases hb
  exact h

theorem bind {m : Service ε σ α} {f : α → Service ε σ β} (hm : Yields I Q m)
    (hf : ∀ a, Q a → Yields I P (f a)) : Yields I P (m >>= f) := by
  intro s hs
  obtain ⟨hI, hQ⟩ := hm s hs
  rw [bind_apply]
  rcases hms : m s with ⟨e | a, s₁⟩ <;> rw [hms] at hI hQ
  · exact ⟨hI, fun b hb => by cases hb⟩
  · exact hf a (hQ a rfl) s₁ hI

theorem lift {x : Except ε α} (h : ∀ a, x = .ok a → Q a) :
    Yields I Q (liftM x : Service ε σ α) :=
  fun _ hs => ⟨hs, h⟩

theorem lift_bind {x : Except ε α} {f : α → Service ε σ β}
    (hf : ∀ a, x = .ok a → Yields I P (f a)) : Yields I P ((liftM x : Service ε σ α) >>= f) :=
  bind (lift fun _ h => h) hf

theorem mapM_forall₂ {S : α → β → Prop} {f : α → Service ε σ β} {l : List α}
    (hf : ∀ x ∈ l, Yields I (S x) (f x)) : Yields I (List.Forall₂ S l) (l.mapM f) := by
  induction l with
  | nil => exact pure .nil
  | cons x l ih =>
    rw [List.mapM_cons]
    refine bind (hf x (by simp)) fun y hy => ?_
    exact bind (ih fun z hz => hf z (by simp [hz])) fun ys hys => pure (.cons hy hys)

theorem mapM {f : α → Service ε σ β} {l : List α} (hf : ∀ x ∈ l, Yields I P (f x)) :
    Yields I (fun ys => ∀ y ∈ ys, P y) (l.mapM f) := by
  refine (mapM_forall₂ hf).mono fun ys h y hy => ?_
  induction h with
  | nil => cases hy
  | cons hx _ ih =>
    rcases List.mem_cons.1 hy with rfl | hy
    · exact hx
    · exact ih (fun z hz => hf z (by simp [hz])) hy

end Yields

/-! ## Exceptions under another type -/

def mapError (f : ε → ε') (m : Service ε σ α) : Service ε' σ α := fun s =>
  match m s with
  | (.ok a, s') => (.ok a, s')
  | (.error e, s') => (.error (f e), s')

theorem Yields.mapError {f : ε → ε'} {m : Service ε σ α} (h : Yields I Q m) :
    Yields I Q (Service.mapError f m) := by
  intro s hs
  obtain ⟨hI, hQ⟩ := h s hs
  unfold Service.mapError
  rcases hms : m s with ⟨e | a, s₁⟩ <;> rw [hms] at hI hQ
  · exact ⟨hI, fun b hb => by cases hb⟩
  · refine ⟨hI, fun b hb => hQ b ?_⟩
    cases hb
    rfl

end Service
