import IndustrialSafety.Lib.Result
import Mathlib.Order.Defs.Unbundled

/-!
# Transactions

* `Transaction ε σ`: the body of a transaction over the state `σ`. A raise drops the state reached.
* `Service ε σ`: a sequence of transactions. A raise keeps the state already committed.
* `Service.transaction`: run a body; commit its state, or roll back if it raises.

`Across r m`: every run of `m` takes a state to an `r`-related one. For a preorder `r` it is closed
under sequencing and loops (`Closed`); a `Service` is across `r` whether it returns or raises.
`Preserves I` is the preorder of an invariant `I`. `Service.Returns`: it raises from no state.
-/

abbrev Transaction (ε σ : Type) := StateT σ (Except ε)

abbrev Service (ε σ : Type) := ExceptT ε (StateM σ)

/-! ## Preorders on states -/

/-- The invariant `I` is kept. -/
def Preserves {σ : Type} (I : σ → Prop) (s s' : σ) : Prop := I s → I s'

instance {σ : Type} (I : σ → Prop) : Std.Refl (Preserves I) := ⟨fun _ h => h⟩

instance {σ : Type} (I : σ → Prop) : IsTrans σ (Preserves I) := ⟨fun _ _ _ h h' hi => h' (h hi)⟩

/-- The value of `f` is kept. -/
def Keeps {σ τ : Type} (f : σ → τ) (s s' : σ) : Prop := f s' = f s

instance {σ τ : Type} (f : σ → τ) : Std.Refl (Keeps f) := ⟨fun _ => rfl⟩

instance {σ τ : Type} (f : σ → τ) : IsTrans σ (Keeps f) := ⟨fun _ _ _ h h' => Eq.trans h' h⟩

/-! ## Predicates closed under sequencing -/

structure Closed {m : Type → Type} [Monad m] (P : ∀ α : Type, m α → Prop) : Prop where
  pure : ∀ {α : Type} (a : α), P α (pure a)
  bind : ∀ {α β : Type} {x : m α} {f : α → m β}, P α x → (∀ a, P β (f a)) → P β (x >>= f)

namespace Closed

variable {m : Type → Type} [Monad m] {P : ∀ α : Type, m α → Prop} {α β : Type}

theorem mapM [LawfulMonad m] (hP : Closed P) {f : α → m β} {l : List α} (hf : ∀ x ∈ l, P β (f x)) :
    P (List β) (l.mapM f) := by
  induction l with
  | nil =>
    rw [List.mapM_nil]
    exact hP.pure _
  | cons x l ih =>
    rw [List.mapM_cons]
    exact hP.bind (hf x (by simp)) fun _ =>
      hP.bind (ih fun y hy => hf y (by simp [hy])) fun _ => hP.pure _

end Closed

/-! ## Transaction bodies -/

namespace Transaction

variable {ε σ α β : Type} {r : σ → σ → Prop}

def Across (r : σ → σ → Prop) (m : Transaction ε σ α) : Prop :=
  ∀ s a s', m s = .ok (a, s') → r s s'

theorem bind_eq_ok {m : Transaction ε σ α} {f : α → Transaction ε σ β} {s s' : σ} {b : β} :
    (m >>= f) s = .ok (b, s') ↔ ∃ a s₁, m s = .ok (a, s₁) ∧ f a s₁ = .ok (b, s') := by
  change (m s >>= fun p => f p.1 p.2) = _ ↔ _
  rw [Except.bind_eq_ok, Prod.exists]

theorem pure_eq_ok {s s' : σ} {a b : α} :
    (pure a : Transaction ε σ α) s = .ok (b, s') ↔ b = a ∧ s' = s := by
  constructor
  · intro h
    cases h
    exact ⟨rfl, rfl⟩
  · rintro ⟨rfl, rfl⟩
    rfl

theorem lift_eq_ok {x : Except ε α} {s s' : σ} {a : α} :
    (liftM x : Transaction ε σ α) s = .ok (a, s') ↔ x = .ok a ∧ s' = s := by
  change (x >>= fun a => pure (a, s)) = _ ↔ _
  rw [Except.bind_eq_ok]
  constructor
  · rintro ⟨b, rfl, h⟩
    cases h
    exact ⟨rfl, rfl⟩
  · rintro ⟨rfl, rfl⟩
    exact ⟨a, rfl, rfl⟩

theorem bind_apply (m : Transaction ε σ α) (f : α → Transaction ε σ β) (s : σ) :
    (m >>= f) s = match m s with
      | .ok (a, s₁) => f a s₁
      | .error e => .error e := by
  change (m s >>= fun p => f p.1 p.2) = _
  rcases m s with _ | ⟨_, _⟩ <;> rfl

/-- The handler starts from the state before the body. -/
theorem tryCatch_apply (m : Transaction ε σ α) (handler : ε → Transaction ε σ α) (s : σ) :
    (tryCatch m handler) s = match m s with
      | .ok p => .ok p
      | .error e => handler e s := by
  change Except.tryCatch (m s) (fun e => handler e s) = _
  cases m s <;> rfl

theorem mapM_nil_eq_ok {f : α → Transaction ε σ β} {s s' : σ} {bs : List β} :
    ([].mapM f) s = .ok (bs, s') ↔ bs = [] ∧ s' = s := by
  rw [List.mapM_nil, pure_eq_ok]

theorem mapM_cons_eq_ok {f : α → Transaction ε σ β} {a : α} {l : List α} {s s' : σ}
    {bs : List β} : ((a :: l).mapM f) s = .ok (bs, s') ↔ ∃ b s₁ bs', f a s = .ok (b, s₁) ∧
      l.mapM f s₁ = .ok (bs', s') ∧ bs = b :: bs' := by
  rw [List.mapM_cons, bind_eq_ok]
  refine ⟨fun h => ?_, fun h => ?_⟩
  · obtain ⟨b, s₁, hb, h⟩ := h
    obtain ⟨bs', s₂, hbs, h⟩ := bind_eq_ok.1 h
    obtain ⟨rfl, rfl⟩ := pure_eq_ok.1 h
    exact ⟨b, s₁, bs', hb, hbs, rfl⟩
  · obtain ⟨b, s₁, bs', hb, hbs, rfl⟩ := h
    exact ⟨b, s₁, hb, bind_eq_ok.2 ⟨bs', s', hbs, rfl⟩⟩

/-- A loop whose steps each apply an object to the state, if it fits; what fits does not change on the
way. -/
theorem mapM_apply_eq_ok {γ : Type} {f : α → Transaction ε σ γ} {args : α → Except ε β}
    {Fits : β → σ → Prop} {apply : σ → β → σ} {I : σ → Prop} (hI : ∀ s b, I s → I (apply s b))
    (hfits : ∀ s b c, I s → (Fits c (apply s b) ↔ Fits c s))
    (hstep : ∀ x s s', I s →
      ((∃ u, f x s = .ok (u, s')) ↔ ∃ b, args x = .ok b ∧ Fits b s ∧ s' = apply s b))
    {l : List α} {s s' : σ} (hs : I s) : (∃ us, l.mapM f s = .ok (us, s')) ↔
      ∃ bs, l.mapM args = .ok bs ∧ (∀ b ∈ bs, Fits b s) ∧ s' = bs.foldl apply s := by
  induction l generalizing s with
  | nil =>
    refine ⟨fun h => ?_, fun h => ?_⟩
    · obtain ⟨us, h⟩ := h
      obtain ⟨-, rfl⟩ := mapM_nil_eq_ok.1 h
      exact ⟨[], rfl, nofun, rfl⟩
    · obtain ⟨bs, hbs, -, rfl⟩ := h
      cases hbs
      exact ⟨[], rfl⟩
  | cons x l ih =>
    refine ⟨fun h => ?_, fun h => ?_⟩
    · obtain ⟨us, h⟩ := h
      obtain ⟨u, s₁, us', hu, hus, -⟩ := mapM_cons_eq_ok.1 h
      obtain ⟨b, hb, hfit, rfl⟩ := (hstep x s s₁ hs).1 ⟨u, hu⟩
      obtain ⟨bs, hbs, hfit', rfl⟩ := (ih (hI s b hs)).1 ⟨us', hus⟩
      refine ⟨b :: bs, by rw [List.mapM_cons, hb, hbs]; rfl, ?_, rfl⟩
      exact List.forall_mem_cons.2 ⟨hfit, fun c hc => (hfits s b c hs).1 (hfit' c hc)⟩
    · obtain ⟨bs, hbs, hfit, rfl⟩ := h
      rw [List.mapM_cons] at hbs
      obtain ⟨b, hb, hbs⟩ := Except.bind_eq_ok.1 hbs
      obtain ⟨bs', hbs', hbs⟩ := Except.bind_eq_ok.1 hbs
      cases hbs
      rw [List.forall_mem_cons] at hfit
      obtain ⟨u, hu⟩ := (hstep x s _ hs).2 ⟨b, hb, hfit.1, rfl⟩
      obtain ⟨us, hus⟩ := (ih (hI s b hs)).2
        ⟨bs', hbs', fun c hc => (hfits s b c hs).2 (hfit.2 c hc), rfl⟩
      exact ⟨u :: us, mapM_cons_eq_ok.2 ⟨u, _, us, hu, hus, rfl⟩⟩

/-! A step at a time: what comes first is run, and the rest stays a run. -/

theorem get_bind (f : σ → Transaction ε σ β) (s : σ) : ((get : Transaction ε σ σ) >>= f) s = f s s :=
  rfl

theorem lift_bind_eq_ok {x : Except ε α} {f : α → Transaction ε σ β} {s : σ} {p : β × σ} :
    ((liftM x : Transaction ε σ α) >>= f) s = .ok p ↔ ∃ a, x = .ok a ∧ f a s = .ok p := by
  obtain ⟨b, s'⟩ := p
  rw [bind_eq_ok]
  constructor
  · rintro ⟨a, s₁, h, hf⟩
    obtain ⟨rfl, rfl⟩ := lift_eq_ok.1 h
    exact ⟨a, rfl, hf⟩
  · rintro ⟨a, rfl, hf⟩
    exact ⟨a, s, rfl, hf⟩

theorem lift_bind_eq_error {x : Except ε α} {f : α → Transaction ε σ β} {s : σ} {e : ε} :
    ((liftM x : Transaction ε σ α) >>= f) s = .error e ↔
      x = .error e ∨ ∃ a, x = .ok a ∧ f a s = .error e := by
  rw [bind_apply]
  rcases x with e' | a
  · refine ⟨fun h => ?_, fun h => ?_⟩
    · cases h
      exact .inl rfl
    · rcases h with h | ⟨_, h, _⟩
      · cases h
        rfl
      · cases h
  · refine ⟨fun h => .inr ⟨a, rfl, h⟩, fun h => ?_⟩
    rcases h with h | ⟨_, h, hf⟩
    · cases h
    · cases h
      exact hf

theorem bind_eq_error {m : Transaction ε σ α} {f : α → Transaction ε σ β} {s : σ} {e : ε} :
    (m >>= f) s = .error e ↔ m s = .error e ∨ ∃ a s₁, m s = .ok (a, s₁) ∧ f a s₁ = .error e := by
  rw [bind_apply]
  rcases m s with e' | ⟨a, s₁⟩ <;> simp

theorem across_lift [Std.Refl r] (x : Except ε α) : Across r (liftM x : Transaction ε σ α) := by
  intro s b s' h
  obtain ⟨-, rfl⟩ := lift_eq_ok.1 h
  exact Std.Refl.refl s'

/-- What follows a computation only has to be across `r` for what the computation returns. -/
theorem across_lift_bind {x : Except ε α} {f : α → Transaction ε σ β}
    (hf : ∀ a, x = .ok a → Across r (f a)) : Across r ((liftM x : Transaction ε σ α) >>= f) := by
  intro s b s' h
  obtain ⟨a, ha, h⟩ := lift_bind_eq_ok.1 h
  exact hf a ha s b s' h

theorem across_get_bind {f : σ → Transaction ε σ β} (hf : ∀ s, Across r (f s)) :
    Across r ((get : Transaction ε σ σ) >>= f) := fun s b s' h => hf s s b s' h

theorem Across.tryCatch {m : Transaction ε σ α} {handler : ε → Transaction ε σ α} (hm : Across r m)
    (hh : ∀ e, Across r (handler e)) : Across r (tryCatch m handler) := by
  intro s a s' h
  change Except.tryCatch (m s) (fun e => handler e s) = _ at h
  cases hms : m s with
  | ok p =>
    rw [hms] at h
    cases h
    exact hm s a s' hms
  | error e =>
    rw [hms] at h
    exact hh e s a s' h

theorem closed_across [Std.Refl r] [IsTrans σ r] :
    Closed fun α (m : Transaction ε σ α) => Across r m where
  pure a s b s' h := by
    obtain ⟨-, rfl⟩ := pure_eq_ok.1 h
    exact Std.Refl.refl s'
  bind hm hf s b s' h := by
    obtain ⟨a, s₁, h₁, h₂⟩ := bind_eq_ok.1 h
    exact IsTrans.trans _ _ _ (hm s a s₁ h₁) (hf a s₁ b s' h₂)

end Transaction

/-! ## Sequences of transactions -/

namespace Service

variable {ε σ α β : Type} {r : σ → σ → Prop}

/-- Commit the body's state, or roll back. -/
def transaction (body : Transaction ε σ α) : Service ε σ α := fun s =>
  match body s with
  | .ok (a, s') => (.ok a, s')
  | .error e => (.error e, s)

def Across (r : σ → σ → Prop) (m : Service ε σ α) : Prop := ∀ s, r s (m s).2

theorem bind_apply (m : Service ε σ α) (f : α → Service ε σ β) (s : σ) :
    (m >>= f) s = match m s with
      | (.ok a, s₁) => f a s₁
      | (.error e, s₁) => (.error e, s₁) := by
  change ExceptT.bindCont f (m s).1 (m s).2 = _
  rcases m s with ⟨_ | _, _⟩ <;> rfl

theorem bind_eq_ok {m : Service ε σ α} {f : α → Service ε σ β} {s s' : σ} {b : β} :
    (m >>= f) s = (.ok b, s') ↔ ∃ a s₁, m s = (.ok a, s₁) ∧ f a s₁ = (.ok b, s') := by
  rw [bind_apply]
  rcases m s with ⟨e | a, s₁⟩
  · constructor
    · nofun
    · rintro ⟨a', s₂, ⟨⟩, -⟩
  · refine ⟨fun h => ⟨a, s₁, rfl, h⟩, ?_⟩
    rintro ⟨a', s₂, h, hf⟩
    cases h
    exact hf

theorem pure_eq_ok {s s' : σ} {a b : α} :
    (pure a : Service ε σ α) s = (.ok b, s') ↔ b = a ∧ s' = s := by
  constructor
  · intro h
    cases h
    exact ⟨rfl, rfl⟩
  · rintro ⟨rfl, rfl⟩
    rfl

theorem transaction_eq_ok {body : Transaction ε σ α} {s s' : σ} {a : α} :
    transaction body s = (.ok a, s') ↔ body s = .ok (a, s') := by
  unfold transaction
  rcases body s with e | ⟨b, s₁⟩
  · exact ⟨nofun, nofun⟩
  · constructor
    · intro h
      cases h
      rfl
    · intro h
      cases h
      rfl

theorem transaction_eq_error {body : Transaction ε σ α} {s s' : σ} {e : ε} :
    transaction body s = (.error e, s') ↔ body s = .error e ∧ s' = s := by
  unfold transaction
  rcases body s with e' | ⟨b, s₁⟩
  · constructor
    · intro h
      cases h
      exact ⟨rfl, rfl⟩
    · rintro ⟨⟨⟩, rfl⟩
      rfl
  · exact ⟨nofun, nofun⟩

theorem lift_eq_ok {x : Except ε α} {s s' : σ} {a : α} :
    (liftM x : Service ε σ α) s = (.ok a, s') ↔ x = .ok a ∧ s' = s := by
  change (x, s) = _ ↔ _
  rw [Prod.mk.injEq, eq_comm (a := s)]

theorem mapM_nil_eq_ok {f : α → Service ε σ β} {s s' : σ} {bs : List β} :
    ([].mapM f) s = (.ok bs, s') ↔ bs = [] ∧ s' = s := by
  rw [List.mapM_nil, pure_eq_ok]

theorem mapM_cons_eq_ok {f : α → Service ε σ β} {a : α} {l : List α} {s s' : σ} {bs : List β} :
    ((a :: l).mapM f) s = (.ok bs, s') ↔ ∃ b s₁ bs', f a s = (.ok b, s₁) ∧
      l.mapM f s₁ = (.ok bs', s') ∧ bs = b :: bs' := by
  rw [List.mapM_cons, bind_eq_ok]
  constructor
  · rintro ⟨b, s₁, hb, h⟩
    obtain ⟨bs', s₂, hbs, h⟩ := bind_eq_ok.1 h
    obtain ⟨rfl, rfl⟩ := pure_eq_ok.1 h
    exact ⟨b, s₁, bs', hb, hbs, rfl⟩
  · rintro ⟨b, s₁, bs', hb, hbs, rfl⟩
    exact ⟨b, s₁, hb, bind_eq_ok.2 ⟨bs', s', hbs, rfl⟩⟩

theorem get_bind (f : σ → Service ε σ β) (s : σ) : ((get : Service ε σ σ) >>= f) s = f s s := rfl

/-- A loop that leaves the state as it is. -/
theorem mapM_fixed {g : α → Service ε σ β} {f : α → Except ε β} {l : List α} {s : σ}
    (h : ∀ a ∈ l, g a s = (f a, s)) : l.mapM g s = (l.mapM f, s) := by
  induction l with
  | nil => rfl
  | cons a l ih =>
    rw [List.forall_mem_cons] at h
    rw [List.mapM_cons, List.mapM_cons, bind_apply, h.1]
    cases f a with
    | error e => rfl
    | ok b =>
      show (l.mapM g >>= _) s = (l.mapM f >>= _, s)
      rw [bind_apply, ih h.2]
      cases l.mapM f <;> rfl

/-- Among states that the steps keep, a loop returns iff each of its steps does. -/
theorem mapM_returns_iff {I : σ → Prop} {P : α → Prop} {f : α → Service ε σ β} {l : List α}
    (hstep : ∀ a ∈ l, ∀ s, I s → ((∃ b s', f a s = (.ok b, s')) ↔ P a))
    (hkeep : ∀ a ∈ l, ∀ s b s', I s → f a s = (.ok b, s') → I s') {s : σ} (hs : I s) :
    (∃ bs s', l.mapM f s = (.ok bs, s')) ↔ ∀ a ∈ l, P a := by
  induction l generalizing s with
  | nil => exact iff_of_true ⟨[], s, rfl⟩ nofun
  | cons a l ih =>
    rw [List.forall_mem_cons] at hstep hkeep
    rw [List.forall_mem_cons, ← hstep.1 s hs]
    constructor
    · rintro ⟨bs, s', h⟩
      obtain ⟨b, s₁, bs', hb, hbs, -⟩ := mapM_cons_eq_ok.1 h
      exact ⟨⟨b, s₁, hb⟩, (ih hstep.2 hkeep.2 (hkeep.1 s b s₁ hs hb)).1 ⟨bs', s', hbs⟩⟩
    · rintro ⟨⟨b, s₁, hb⟩, hl⟩
      obtain ⟨bs', s', hbs⟩ := (ih hstep.2 hkeep.2 (hkeep.1 s b s₁ hs hb)).2 hl
      exact ⟨b :: bs', s', mapM_cons_eq_ok.2 ⟨b, s₁, bs', hb, hbs, rfl⟩⟩

/-- From one state: the first step from there, what follows from everywhere. -/
theorem bind_across [IsTrans σ r] {m : Service ε σ α} {f : α → Service ε σ β} {s : σ}
    (hm : r s (m s).2) (hf : ∀ a, Across r (f a)) : r s ((m >>= f) s).2 := by
  rw [bind_apply]
  rcases hms : m s with ⟨e | a, s₁⟩ <;> rw [hms] at hm
  · exact hm
  · exact IsTrans.trans _ _ _ hm (hf a s₁)

theorem transaction_across [Std.Refl r] {body : Transaction ε σ α} {s : σ}
    (h : ∀ a s', body s = .ok (a, s') → r s s') : r s (transaction body s).2 := by
  unfold transaction
  cases hs : body s with
  | ok p => exact h p.1 p.2 hs
  | error e => exact Std.Refl.refl s

theorem across_transaction [Std.Refl r] {body : Transaction ε σ α}
    (h : Transaction.Across r body) : Across r (transaction body) := fun s =>
  transaction_across (h s)

theorem across_lift [Std.Refl r] (x : Except ε α) : Across r (liftM x : Service ε σ α) :=
  fun s => Std.Refl.refl s

/-- What follows a computation only has to be across `r` for what the computation returns. -/
theorem across_lift_bind [Std.Refl r] {x : Except ε α} {f : α → Service ε σ β}
    (hf : ∀ a, x = .ok a → Across r (f a)) : Across r ((liftM x : Service ε σ α) >>= f) := by
  intro s
  rcases x with e | a
  · exact Std.Refl.refl s
  · exact hf a rfl s

theorem closed_across [Std.Refl r] [IsTrans σ r] :
    Closed fun α (m : Service ε σ α) => Across r m where
  pure _ s := Std.Refl.refl s
  bind hm hf s := bind_across (hm s) hf

/-- The service returns from every state. -/
def Returns (m : Service ε σ α) : Prop := ∀ s, ∃ a s', m s = (.ok a, s')

theorem closed_returns : Closed fun α (m : Service ε σ α) => Returns m where
  pure a s := ⟨a, s, rfl⟩
  bind hm hf s := by
    obtain ⟨a, s₁, h₁⟩ := hm s
    obtain ⟨b, s₂, h₂⟩ := hf a s₁
    exact ⟨b, s₂, bind_eq_ok.2 ⟨a, s₁, h₁, h₂⟩⟩

theorem returns_lift {x : Except ε α} (h : ∃ a, x = .ok a) : Returns (liftM x : Service ε σ α) := by
  obtain ⟨a, rfl⟩ := h
  exact fun s => ⟨a, s, rfl⟩

end Service
