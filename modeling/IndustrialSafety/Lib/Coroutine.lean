import IndustrialSafety.Lib.Lockstep
import IndustrialSafety.Lib.Related
import Mathlib.Logic.Function.Iterate

/-!
# Coroutines

`Coroutine σ α`: a computation over a shared state that gives way to others between its steps; `run` is
what it does when no other one comes between. An `Async ε σ α` may raise; `await` makes one step of a
service, and `alone` is the service that an `Async` is when it runs alone. A `Pool` interleaves coroutines
by a schedule.

* `Alike V rel c c'`: from `V`-related states, the coroutines keep the states `V`-related step by step and
  end together, with `rel`-related results.
* `Within I Q P c`: each step from a state of `I` is a `Q`, and the result is a `P`.

Tasks that are alike to themselves, with steps that the others do not see, run in a pool as they run alone,
whatever the schedule (`Pool.result`, `Pool.finished_iff`).
-/

inductive Coroutine (σ α : Type)
  | done (result : α)
  | step (write : σ → σ) (rest : σ → Coroutine σ α)

namespace Coroutine

variable {σ α β γ : Type}

protected def bind : Coroutine σ α → (α → Coroutine σ β) → Coroutine σ β
  | done a, f => f a
  | step write rest, f => step write fun s => (rest s).bind f

instance : Monad (Coroutine σ) where
  pure := done
  bind := Coroutine.bind

instance : LawfulMonad (Coroutine σ) := LawfulMonad.mk' _
  (fun c => by
    induction c with
    | done a => rfl
    | step write rest ih => exact congrArg (step write) (funext ih))
  (fun _ _ => rfl)
  (fun c f g => by
    induction c with
    | done a => rfl
    | step write rest ih => exact congrArg (step write) (funext ih))

def run : Coroutine σ α → σ → α × σ
  | done a, s => (a, s)
  | step write rest, s => (rest s).run (write s)

/-- The number of steps from a state. -/
def steps : Coroutine σ α → σ → ℕ
  | done _, _ => 0
  | step write rest, s => (rest s).steps (write s) + 1

theorem run_bind (c : Coroutine σ α) (f : α → Coroutine σ β) (s : σ) :
    (c >>= f).run s = (f (c.run s).1).run (c.run s).2 := by
  induction c generalizing s with
  | done a => rfl
  | step write rest ih => exact ih s (write s)

/-- The next step. -/
def advance : Coroutine σ α × σ → Coroutine σ α × σ
  | (done a, s) => (done a, s)
  | (step write rest, s) => (rest s, write s)

theorem run_advance (c : Coroutine σ α × σ) : (advance c).1.run (advance c).2 = c.1.run c.2 := by
  obtain ⟨_ | _, s⟩ := c <;> rfl

theorem run_iterate_advance (c : Coroutine σ α × σ) (n : ℕ) :
    (advance^[n] c).1.run (advance^[n] c).2 = c.1.run c.2 := by
  induction n with
  | zero => rfl
  | succ n ih => rw [Function.iterate_succ_apply', run_advance, ih]

theorem steps_advance (c : Coroutine σ α × σ) :
    (advance c).1.steps (advance c).2 = c.1.steps c.2 - 1 := by
  obtain ⟨_ | _, s⟩ := c <;> rfl

theorem steps_iterate_advance (c : Coroutine σ α × σ) (n : ℕ) :
    (advance^[n] c).1.steps (advance^[n] c).2 = c.1.steps c.2 - n := by
  induction n with
  | zero => rfl
  | succ n ih => rw [Function.iterate_succ_apply', steps_advance, ih, Nat.sub_sub]

/-! ## Coroutines that agree -/

inductive Alike (V : σ → σ → Prop) (rel : α → β → Prop) : Coroutine σ α → Coroutine σ β → Prop
  | done {a : α} {b : β} (h : rel a b) : Alike V rel (done a) (done b)
  | step {write write' : σ → σ} {rest : σ → Coroutine σ α} {rest' : σ → Coroutine σ β}
    (hwrite : ∀ s s', V s s' → V (write s) (write' s'))
    (hrest : ∀ s s', V s s' → Alike V rel (rest s) (rest' s')) :
    Alike V rel (step write rest) (step write' rest')

inductive Within (I : σ → Prop) (Q : σ → σ → Prop) (P : α → Prop) : Coroutine σ α → Prop
  | done {a : α} (h : P a) : Within I Q P (done a)
  | step {write : σ → σ} {rest : σ → Coroutine σ α} (hwrite : ∀ s, I s → Q s (write s))
    (hrest : ∀ s, Within I Q P (rest s)) : Within I Q P (step write rest)

variable {δ : Type} {V : σ → σ → Prop} {I : σ → Prop} {Q : σ → σ → Prop} {rel : α → β → Prop}
  {rel' : γ → δ → Prop} {P : α → Prop} {P' : β → Prop}

theorem Alike.bind {c : Coroutine σ α} {c' : Coroutine σ β} {f : α → Coroutine σ γ}
    {f' : β → Coroutine σ δ} (h : Alike V rel c c')
    (hf : ∀ a b, rel a b → Alike V rel' (f a) (f' b)) : Alike V rel' (c >>= f) (c' >>= f') := by
  induction h with
  | done h => exact hf _ _ h
  | step hwrite _ ih => exact .step hwrite ih

theorem Alike.mono {rel'' : α → β → Prop} {c : Coroutine σ α} {c' : Coroutine σ β}
    (h : Alike V rel c c') (hrel : ∀ a b, rel a b → rel'' a b) : Alike V rel'' c c' := by
  induction h with
  | done h => exact .done (hrel _ _ h)
  | step hwrite _ ih => exact .step hwrite ih

theorem Within.bind {c : Coroutine σ α} {f : α → Coroutine σ β} (h : Within I Q P c)
    (hf : ∀ a, P a → Within I Q P' (f a)) : Within I Q P' (c >>= f) := by
  induction h with
  | done h => exact hf _ h
  | step hwrite _ ih => exact .step hwrite ih

theorem Within.mono {I' : σ → Prop} {c : Coroutine σ α} (h : Within I Q P c) (hI : ∀ s, I' s → I s) :
    Within I' Q P c := by
  induction h with
  | done h => exact .done h
  | step hwrite _ ih => exact .step (fun s hs => hwrite s (hI s hs)) ih

/-- A step keeps both states related, and the coroutines alike. -/
theorem Alike.advance {c : Coroutine σ α × σ} {d : Coroutine σ β × σ} (h : Alike V rel c.1 d.1)
    (hs : V c.2 d.2) : Alike V rel (advance c).1 (advance d).1 ∧ V (advance c).2 (advance d).2 := by
  obtain ⟨c, s⟩ := c
  obtain ⟨d, t⟩ := d
  cases h with
  | done h => exact ⟨.done h, hs⟩
  | step hwrite hrest => exact ⟨hrest _ _ hs, hwrite _ _ hs⟩

theorem Within.advance {c : Coroutine σ α × σ} (h : Within I Q P c.1) :
    Within I Q P (advance c).1 := by
  obtain ⟨c, s⟩ := c
  cases h with
  | done h => exact .done h
  | step _ hrest => exact hrest s

/-- The coroutines end together. -/
theorem Alike.steps_eq_zero {c : Coroutine σ α} {c' : Coroutine σ β} (h : Alike V rel c c') (s s' : σ) :
    c.steps s = 0 ↔ c'.steps s' = 0 := by
  cases h with
  | done _ => exact iff_of_true rfl rfl
  | step _ _ => exact iff_of_false (Nat.succ_ne_zero _) (Nat.succ_ne_zero _)

theorem steps_eq_zero {c : Coroutine σ α} {s : σ} : c.steps s = 0 ↔ ∃ a, c = done a := by
  cases c with
  | done a => exact iff_of_true rfl ⟨a, rfl⟩
  | step write rest =>
    refine iff_of_false (Nat.succ_ne_zero _) fun h => ?_
    obtain ⟨a, ha⟩ := h
    cases ha

/-! ## Interleavings -/

structure Pool (ι σ α : Type) where
  tasks : ι → Coroutine σ α
  state : σ

namespace Pool

variable {ι : Type} [DecidableEq ι]

/-- A task takes its next step. -/
def next (p : Pool ι σ α) (i : ι) : Pool ι σ α :=
  let stepped := advance (p.tasks i, p.state)
  ⟨Function.update p.tasks i stepped.1, stepped.2⟩

def run (p : Pool ι σ α) (schedule : List ι) : Pool ι σ α := schedule.foldl next p

end Pool

/-- What a task sees is not written by the others. -/
structure Apart {ι : Type} (I : σ → Prop) (V Q : ι → σ → σ → Prop) : Prop where
  keeps : ∀ i s t, I s → Q i s t → I t
  refl : ∀ i s, Q i s s
  frame : ∀ i j s s' t, i ≠ j → I s' → V i s s' → Q j s' t → V i s t

namespace Pool

variable {ι : Type} [DecidableEq ι] {V Q : ι → σ → σ → Prop} {P : α → Prop}
  {rel : α → α → Prop} {p : Pool ι σ α}

/-- Each task of a pool is where it is alone. -/
structure Tracks (I : σ → Prop) (V Q : ι → σ → σ → Prop) (P : α → Prop) (rel : α → α → Prop)
    (p : Pool ι σ α) (alone : ι → Coroutine σ α × σ) : Prop where
  state : I p.state
  alike : ∀ i, Alike (V i) rel (alone i).1 (p.tasks i)
  sees : ∀ i, V i (alone i).2 p.state
  within : ∀ i, Within I (Q i) P (p.tasks i)

theorem Tracks.next (hapart : Apart I V Q) {alone : ι → Coroutine σ α × σ}
    (h : Tracks I V Q P rel p alone) (i : ι) :
    Tracks I V Q P rel (p.next i) (Function.update alone i (advance (alone i))) := by
  have hQ : Q i p.state (p.next i).state := by
    have hwithin := h.within i
    unfold Pool.next
    generalize p.tasks i = c at hwithin
    cases hwithin with
    | done _ => exact hapart.refl i _
    | step hwrite _ => exact hwrite _ h.state
  obtain ⟨halike, hsees⟩ := Alike.advance (d := (p.tasks i, p.state)) (h.alike i) (h.sees i)
  have hself : (p.next i).tasks i = (advance (p.tasks i, p.state)).1 := Function.update_self ..
  have hother : ∀ j, j ≠ i → (p.next i).tasks j = p.tasks j := fun j hj => Function.update_of_ne hj ..
  refine ⟨hapart.keeps i _ _ h.state hQ, fun j => ?_, fun j => ?_, fun j => ?_⟩
  · by_cases hj : j = i
    · subst hj
      rw [hself, Function.update_self]
      exact halike
    · rw [Function.update_of_ne hj, hother j hj]
      exact h.alike j
  · by_cases hj : j = i
    · subst hj
      rw [Function.update_self]
      exact hsees
    · rw [Function.update_of_ne hj]
      exact hapart.frame j i _ _ _ hj h.state (h.sees j) hQ
  · by_cases hj : j = i
    · subst hj
      rw [hself]
      exact (h.within j).advance (c := (p.tasks j, p.state))
    · rw [hother j hj]
      exact h.within j

/-- The tasks of a pool, each alone for the steps that the schedule gives it. -/
theorem Tracks.run (hapart : Apart I V Q) {alone : ι → Coroutine σ α × σ}
    (h : Tracks I V Q P rel p alone) (schedule : List ι) :
    Tracks I V Q P rel (p.run schedule) fun i => advance^[schedule.count i] (alone i) := by
  induction schedule generalizing p alone with
  | nil => exact h
  | cons j schedule ih =>
    have hrest := ih (h.next hapart j)
    have halone : (fun i => advance^[schedule.count i]
        (Function.update alone j (advance (alone j)) i)) =
          fun i => advance^[(j :: schedule).count i] (alone i) := by
      funext i
      by_cases hi : i = j
      · subst hi
        rw [Function.update_self, List.count_cons_self, Function.iterate_succ_apply]
      · rw [Function.update_of_ne hi, List.count_cons_of_ne (Ne.symm hi)]
    rwa [halone] at hrest

variable (hapart : Apart I V Q) (hstate : I p.state) (hsees : ∀ i, V i p.state p.state)
  (halike : ∀ i, Alike (V i) rel (p.tasks i) (p.tasks i)) (hwithin : ∀ i, Within I (Q i) P (p.tasks i))
  (schedule : List ι) (i : ι)

include hapart hstate hsees halike hwithin

theorem tracks : Tracks I V Q P rel (p.run schedule) fun i =>
    advance^[schedule.count i] (p.tasks i, p.state) :=
  Tracks.run hapart ⟨hstate, halike, hsees, hwithin⟩ schedule

/-- A finished task has the result it has alone, and left what it sees as it leaves it alone. -/
theorem result {b : α} (hdone : (p.run schedule).tasks i = done b) :
    rel ((p.tasks i).run p.state).1 b ∧ V i ((p.tasks i).run p.state).2 (p.run schedule).state := by
  have htracks := tracks hapart hstate hsees halike hwithin schedule
  have hrun := run_iterate_advance (p.tasks i, p.state) (schedule.count i)
  have hi := htracks.alike i
  have hs := htracks.sees i
  rw [hdone] at hi
  generalize advance^[schedule.count i] (p.tasks i, p.state) = c at hrun hi hs
  obtain ⟨c, s⟩ := c
  cases hi with
  | done h =>
    rw [← hrun]
    exact ⟨h, hs⟩

/-- A task has finished iff it was given as many steps as it takes alone. -/
theorem finished_iff : (∃ b, (p.run schedule).tasks i = done b) ↔
    (p.tasks i).steps p.state ≤ schedule.count i := by
  have htracks := tracks hapart hstate hsees halike hwithin schedule
  rw [← steps_eq_zero (s := (p.run schedule).state), ← (htracks.alike i).steps_eq_zero
    (advance^[schedule.count i] (p.tasks i, p.state)).2, steps_iterate_advance]
  exact Nat.sub_eq_zero_iff_le

end Pool

end Coroutine

/-! ## Coroutines that may raise -/

abbrev Async (ε σ α : Type) := ExceptT ε (Coroutine σ) α

namespace Async

open Coroutine

variable {ε σ α β γ δ : Type} {V : σ → σ → Prop} {I : σ → Prop} {Q : σ → σ → Prop} {r : α → β → Prop}
  {r' : γ → δ → Prop}

/-- One step of a service. -/
def await (m : Service ε σ α) : Async ε σ α :=
  ExceptT.mk (.step (fun s => (m s).2) fun s => .done (m s).1)

/-- The service without other tasks. -/
def alone (x : Async ε σ α) : Service ε σ α := fun s => Coroutine.run x.run s

theorem alone_await (m : Service ε σ α) : alone (await m) = m := rfl

theorem alone_lift (x : Except ε α) : alone (liftM x : Async ε σ α) = liftM x := rfl

theorem alone_pure (a : α) : alone (pure a : Async ε σ α) = pure a := rfl

theorem alone_bind (x : Async ε σ α) (f : α → Async ε σ β) :
    alone (x >>= f) = alone x >>= fun a => alone (f a) := by
  funext s
  rw [Service.bind_apply]
  refine (run_bind x.run (ExceptT.bindCont f) s).trans ?_
  show _ = match Coroutine.run x.run s with
    | (.ok a, s₁) => alone (f a) s₁
    | (.error e, s₁) => (.error e, s₁)
  rcases Coroutine.run x.run s with ⟨e | a, s₁⟩ <;> rfl

theorem alone_mapM (f : α → Async ε σ β) (l : List α) :
    alone (l.mapM f) = l.mapM fun a => alone (f a) := by
  induction l with
  | nil => rfl
  | cons a l ih =>
    rw [List.mapM_cons, List.mapM_cons, alone_bind]
    simp only [alone_bind, ih, alone_pure]

/-! ## Agreement -/

/-- Both return `r`-related values, or both raise the same exception. -/
def Alike (V : σ → σ → Prop) (r : α → β → Prop) (x : Async ε σ α) (y : Async ε σ β) : Prop :=
  Coroutine.Alike V (Except.Related Eq r) x.run y.run

theorem alike_await {m : Service ε σ α} {m' : Service ε σ β}
    (h : ∀ s s', V s s' → Service.Lockstep V r (m s) (m' s')) : Alike V r (await m) (await m') := by
  refine .step (fun s s' hs => (h s s' hs).state) fun s s' hs => .done ?_
  have hlockstep := h s s' hs
  generalize m s = p at hlockstep
  generalize m' s' = q at hlockstep
  cases hlockstep with
  | ok hrel _ => exact .ok hrel
  | error e _ => exact .error rfl

theorem alike_lift {x : Except ε α} {y : Except ε β} (h : Except.Related Eq r x y) :
    Alike V r (liftM x : Async ε σ α) (liftM y : Async ε σ β) := .done h

theorem alike_pure {a : α} {b : β} (h : r a b) :
    Alike V r (pure a : Async ε σ α) (pure b : Async ε σ β) := .done (.ok h)

theorem Alike.bind {x : Async ε σ α} {y : Async ε σ β} {f : α → Async ε σ γ} {g : β → Async ε σ δ}
    (h : Alike V r x y) (hf : ∀ a b, r a b → Alike V r' (f a) (g b)) :
    Alike V r' (x >>= f) (y >>= g) := by
  refine Coroutine.Alike.bind h fun a b hab => ?_
  cases hab with
  | ok hrel => exact hf _ _ hrel
  | error he =>
    cases he
    exact .done (.error rfl)

theorem alike_mapM {τ : Type} {f : τ → Async ε σ α} {g : τ → Async ε σ β} {l : List τ}
    (h : ∀ x ∈ l, Alike V r (f x) (g x)) : Alike V (List.Forall₂ r) (l.mapM f) (l.mapM g) := by
  induction l with
  | nil => exact alike_pure .nil
  | cons x l ih =>
    rw [List.mapM_cons, List.mapM_cons]
    refine (h x (by simp)).bind fun a b hab => ?_
    refine (ih fun y hy => h y (by simp [hy])).bind fun as bs habs => ?_
    exact alike_pure (.cons hab habs)

/-! ## Steps -/

variable {P : α → Prop} {P' : β → Prop}

/-- Each step is a `Q`, and what is returned is a `P`. -/
def Within (I : σ → Prop) (Q : σ → σ → Prop) (P : α → Prop) (x : Async ε σ α) : Prop :=
  Coroutine.Within I Q (fun r : Except ε α => ∀ a, r = .ok a → P a) x.run

theorem within_await {m : Service ε σ α} (h : ∀ s, I s → Q s (m s).2)
    (hP : ∀ s a, (m s).1 = .ok a → P a) : Within I Q P (await m) :=
  .step h fun s => .done (hP s)

theorem within_lift {x : Except ε α} (h : ∀ a, x = .ok a → P a) :
    Within I Q P (liftM x : Async ε σ α) := .done h

theorem within_pure {a : α} (h : P a) : Within I Q P (pure a : Async ε σ α) :=
  .done fun _ ha => Except.ok.inj ha ▸ h

theorem Within.bind {x : Async ε σ α} {f : α → Async ε σ β} (h : Within I Q P x)
    (hf : ∀ a, P a → Within I Q P' (f a)) : Within I Q P' (x >>= f) :=
  Coroutine.Within.bind h fun r hr => by
    cases r with
    | ok a => exact hf a (hr a rfl)
    | error e => exact .done fun _ h => by cases h

theorem Within.mono {x : Async ε σ α} {P' : α → Prop} (h : Within I Q P x) (hP : ∀ a, P a → P' a) :
    Within I Q P' x := by
  have hbind := h.bind fun a ha => within_pure (hP a ha)
  rwa [bind_pure] at hbind

theorem within_mapM {τ : Type} {f : τ → Async ε σ α} {l : List τ}
    (h : ∀ x ∈ l, Within I Q P (f x)) : Within I Q (fun bs => ∀ b ∈ bs, P b) (l.mapM f) := by
  induction l with
  | nil => exact within_pure (by simp)
  | cons x l ih =>
    rw [List.mapM_cons]
    refine (h x (by simp)).bind fun a ha => ?_
    refine (ih fun y hy => h y (by simp [hy])).bind fun as has => ?_
    exact within_pure (by simpa using ⟨ha, has⟩)

end Async
