import IndustrialSafety.Lib.Related
import IndustrialSafety.Lib.Transaction

/-!
# Services in lockstep

`Lockstep S rel p q`: two runs end in `S`-related states, and either both return, with `rel`-related
values, or both raise the same exception. Sequencing and loops keep runs in lockstep (`Lockstep.bind`,
`Lockstep.mapM`). Bodies in lockstep are committed in lockstep (`Transaction.Lockstep.transaction`).
-/

namespace Service

variable {ε σ α β γ δ : Type} {S : σ → σ → Prop} {rel : α → β → Prop} {rel' : γ → δ → Prop}

inductive Lockstep (S : σ → σ → Prop) (rel : α → β → Prop) :
    Except ε α × σ → Except ε β × σ → Prop
  | ok {a : α} {b : β} {s s' : σ} (hrel : rel a b) (hs : S s s') :
    Lockstep S rel (.ok a, s) (.ok b, s')
  | error (e : ε) {s s' : σ} (hs : S s s') : Lockstep S rel (.error e, s) (.error e, s')

namespace Lockstep

theorem state {p : Except ε α × σ} {q : Except ε β × σ} (h : Lockstep S rel p q) : S p.2 q.2 := by
  cases h with
  | ok _ hs => exact hs
  | error _ hs => exact hs

theorem mono {p : Except ε α × σ} {q : Except ε β × σ} {S' : σ → σ → Prop} {rel' : α → β → Prop}
    (h : Lockstep S rel p q) (hrel : ∀ a b, rel a b → rel' a b) (hS : ∀ s s', S s s' → S' s s') :
    Lockstep S' rel' p q := by
  cases h with
  | ok hr hs => exact .ok (hrel _ _ hr) (hS _ _ hs)
  | error e hs => exact .error e (hS _ _ hs)

/-- What follows only has to be in lockstep for what the first steps return. -/
theorem bind {m : Service ε σ α} {m' : Service ε σ β} {f : α → Service ε σ γ}
    {f' : β → Service ε σ δ} {s s' : σ} (hm : Lockstep S rel (m s) (m' s'))
    (hf : ∀ a b s₁ s₁', m s = (.ok a, s₁) → m' s' = (.ok b, s₁') → rel a b → S s₁ s₁' →
      Lockstep S rel' (f a s₁) (f' b s₁')) :
    Lockstep S rel' ((m >>= f) s) ((m' >>= f') s') := by
  rw [bind_apply, bind_apply]
  generalize hp : m s = p at hm
  generalize hq : m' s' = q at hm
  cases hm with
  | ok hrel hs => exact hf _ _ _ _ hp hq hrel hs
  | error e hs => exact .error e hs

/-- A last step that one run alone takes. -/
theorem bind_left {m : Service ε σ α} {f : α → Service ε σ γ} {s : σ} {q : Except ε β × σ}
    {rel' : γ → β → Prop} (hm : Lockstep S rel (m s) q)
    (hf : ∀ a b s₁ s₁', rel a b → S s₁ s₁' → Lockstep S rel' (f a s₁) (.ok b, s₁')) :
    Lockstep S rel' ((m >>= f) s) q := by
  rw [bind_apply]
  generalize m s = p at hm
  cases hm with
  | ok hrel hs => exact hf _ _ _ _ hrel hs
  | error e hs => exact .error e hs

theorem pure {a : α} {b : β} {s s' : σ} (hrel : rel a b) (hs : S s s') :
    Lockstep S rel ((Pure.pure a : Service ε σ α) s) ((Pure.pure b : Service ε σ β) s') :=
  .ok hrel hs

theorem result_eq {p q : Except ε α × σ} (h : Lockstep S Eq p q) : p.1 = q.1 := by
  cases h with
  | ok hrel _ => rw [hrel]
  | error e _ => rfl

/-- A computation that leaves the state alone. -/
theorem lift (x : Except ε α) {s s' : σ} (hs : S s s') :
    Lockstep S Eq ((liftM x : Service ε σ α) s) ((liftM x : Service ε σ α) s') := by
  cases x with
  | ok a => exact .ok rfl hs
  | error e => exact .error e hs

theorem mapM {τ : Type} {f : τ → Service ε σ α} {g : τ → Service ε σ β} {l : List τ}
    (hf : ∀ x ∈ l, ∀ s s', S s s' → Lockstep S rel (f x s) (g x s')) {s s' : σ} (hs : S s s') :
    Lockstep S (List.Forall₂ rel) (l.mapM f s) (l.mapM g s') := by
  induction l generalizing s s' with
  | nil => exact .ok .nil hs
  | cons x l ih =>
    rw [List.mapM_cons, List.mapM_cons]
    refine bind (hf x (by simp) _ _ hs) fun a b _ _ _ _ hab hs => ?_
    refine bind (ih (fun y hy => hf y (by simp [hy])) hs) fun as bs _ _ _ _ habs hs => ?_
    exact pure (.cons hab habs) hs

theorem mapM_eq {τ : Type} {f g : τ → Service ε σ α} {l : List τ}
    (hf : ∀ x ∈ l, ∀ s s', S s s' → Lockstep S Eq (f x s) (g x s')) {s s' : σ} (hs : S s s') :
    Lockstep S Eq (l.mapM f s) (l.mapM g s') :=
  (mapM hf hs).mono (fun as bs h => by rwa [List.forall₂_eq_eq_eq] at h) fun _ _ => id

end Lockstep

end Service

/-! ## Transaction bodies -/

namespace Transaction

variable {ε σ α β γ δ : Type} {S : σ → σ → Prop} {r : α → β → Prop} {r' : γ → δ → Prop}

/-- Two runs return, with `r`-related values and in `S`-related states, or raise the same exception. -/
abbrev Lockstep (S : σ → σ → Prop) (r : α → β → Prop) (x : Except ε (α × σ))
    (y : Except ε (β × σ)) : Prop :=
  Except.Related Eq (fun p q => r p.1 q.1 ∧ S p.2 q.2) x y

theorem Lockstep.bind {m : Transaction ε σ α} {m' : Transaction ε σ β} {f : α → Transaction ε σ γ}
    {f' : β → Transaction ε σ δ} {s s' : σ} (hm : Lockstep S r (m s) (m' s'))
    (hf : ∀ a b s₁ s₁', r a b → S s₁ s₁' → Lockstep S r' (f a s₁) (f' b s₁')) :
    Lockstep S r' ((m >>= f) s) ((m' >>= f') s') :=
  Except.Related.bind hm fun _ _ _ _ h => hf _ _ _ _ h.1 h.2

/-- A computation that reads nothing, or what is the same in both states. -/
theorem Lockstep.lift_bind {x : Except ε α} {f : α → Transaction ε σ γ} {f' : α → Transaction ε σ δ}
    {s s' : σ} (hf : ∀ a, x = .ok a → Lockstep S r' (f a s) (f' a s')) :
    Lockstep S r' (((liftM x : Transaction ε σ α) >>= f) s)
      (((liftM x : Transaction ε σ α) >>= f') s') := by
  cases x with
  | error e => exact .error rfl
  | ok a => exact hf a rfl

theorem Lockstep.mapM {τ : Type} {f : τ → Transaction ε σ α} {g : τ → Transaction ε σ β} {l : List τ}
    (hf : ∀ x ∈ l, ∀ s s', S s s' → Lockstep S r (f x s) (g x s')) {s s' : σ} (hs : S s s') :
    Lockstep S (List.Forall₂ r) (l.mapM f s) (l.mapM g s') := by
  induction l generalizing s s' with
  | nil => exact .ok ⟨.nil, hs⟩
  | cons x l ih =>
    rw [List.mapM_cons, List.mapM_cons]
    refine bind (hf x (by simp) _ _ hs) fun a b _ _ hab hs => ?_
    refine bind (ih (fun y hy => hf y (by simp [hy])) hs) fun as bs _ _ habs hs => ?_
    exact .ok ⟨.cons hab habs, hs⟩

/-- Both are committed, or both rolled back. -/
theorem Lockstep.transaction {m : Transaction ε σ α} {m' : Transaction ε σ β} {s s' : σ}
    (h : Lockstep S r (m s) (m' s')) (hs : S s s') :
    Service.Lockstep S r (Service.transaction m s) (Service.transaction m' s') := by
  unfold Service.transaction
  generalize m s = x at h
  generalize m' s' = y at h
  cases h with
  | ok h => exact .ok h.1 h.2
  | error h =>
    rw [h]
    exact .error _ hs

end Transaction
