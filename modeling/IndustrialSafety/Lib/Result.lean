import IndustrialSafety.Lib.Literal
import Mathlib.Data.List.Forall2

/-!
# Computations that may raise

`Except` computations taken apart: a computation that returns, returns after each of its steps.
-/

theorem List.Forall₂.exists_of_mem_left {α β : Type} {R : α → β → Prop} {l : List α} {l' : List β}
    (h : Forall₂ R l l') {a : α} (ha : a ∈ l) : ∃ b ∈ l', R a b := by
  induction h with
  | nil => cases ha
  | cons hab _ ih =>
    rcases List.mem_cons.1 ha with rfl | ha
    · exact ⟨_, List.mem_cons_self, hab⟩
    · obtain ⟨b, hb, h⟩ := ih ha
      exact ⟨b, List.mem_cons_of_mem _ hb, h⟩

theorem List.Forall₂.exists_of_mem_right {α β : Type} {R : α → β → Prop} {l : List α} {l' : List β}
    (h : Forall₂ R l l') {b : β} (hb : b ∈ l') : ∃ a ∈ l, R a b := by
  induction h with
  | nil => cases hb
  | cons hab _ ih =>
    rcases List.mem_cons.1 hb with rfl | hb
    · exact ⟨_, List.mem_cons_self, hab⟩
    · obtain ⟨a, ha, h⟩ := ih hb
      exact ⟨a, List.mem_cons_of_mem _ ha, h⟩

namespace Except

variable {ε α β : Type}

theorem bind_eq_ok {x : Except ε α} {f : α → Except ε β} {b : β} :
    x >>= f = .ok b ↔ ∃ a, x = .ok a ∧ f a = .ok b := by
  rcases x with e | a
  · exact ⟨nofun, fun ⟨_, h, _⟩ => nomatch h⟩
  · exact ⟨fun h => ⟨a, rfl, h⟩, fun ⟨_, h, hf⟩ => Except.ok.inj h ▸ hf⟩

theorem bind_eq_error {x : Except ε α} {f : α → Except ε β} {e : ε} :
    x >>= f = .error e ↔ x = .error e ∨ ∃ a, x = .ok a ∧ f a = .error e := by
  rcases x with e' | a <;> simp [bind, Except.bind]

theorem map_eq_ok {x : Except ε α} {f : α → β} {b : β} :
    x.map f = .ok b ↔ ∃ a, x = .ok a ∧ f a = b := by
  rcases x with e | a <;> simp [Except.map]

/-- A computation returns if its first step does and so does the rest, from what the step returned. -/
theorem bind_total {x : Except ε α} {f : α → Except ε β} (hx : ∃ a, x = .ok a)
    (hf : ∀ a, x = .ok a → ∃ b, f a = .ok b) : ∃ b, x >>= f = .ok b := by
  obtain ⟨a, ha⟩ := hx
  obtain ⟨b, hb⟩ := hf a ha
  exact ⟨b, bind_eq_ok.2 ⟨a, ha, hb⟩⟩

theorem bind_total_iff {x : Except ε α} {f : α → Except ε β} :
    (∃ b, x >>= f = .ok b) ↔ ∃ a, x = .ok a ∧ ∃ b, f a = .ok b := by
  simp only [bind_eq_ok]
  exact ⟨fun ⟨b, a, h, hf⟩ => ⟨a, h, b, hf⟩, fun ⟨a, h, b, hf⟩ => ⟨b, a, h, hf⟩⟩

@[simp] theorem ok_bind (a : α) (f : α → Except ε β) : (.ok a : Except ε α) >>= f = f a := rfl

@[simp] theorem error_bind (e : ε) (f : α → Except ε β) :
    (.error e : Except ε α) >>= f = .error e := rfl

@[simp] theorem pure_eq_ok (a : α) : (pure a : Except ε α) = .ok a := rfl

@[simp] theorem throw_eq_error (e : ε) : (throw e : Except ε α) = .error e := rfl

theorem toOption_eq_some {x : Except ε α} {a : α} : x.toOption = some a ↔ x = .ok a := by
  rcases x with e | b <;> simp [Except.toOption]

theorem toOption_bind (x : Except ε α) (f : α → Except ε β) :
    (x >>= f).toOption = x.toOption.bind fun a => (f a).toOption := by
  rcases x with e | a <;> rfl

/-- Computations that return the same raise together. -/
theorem error_iff_of_toOption_eq {x y : Except ε α} (h : x.toOption = y.toOption) :
    (∃ e, x = .error e) ↔ ∃ e, y = .error e := by
  rcases x with e | a <;> rcases y with e' | b <;> simp [Except.toOption] at h ⊢

theorem toOption_map_eq_some {x : Except ε α} {f : α → β} {b : β} :
    x.toOption.map f = some b ↔ ∃ a, x = .ok a ∧ f a = b := by
  rcases x with e | a <;> simp [Except.toOption]

/-- A loop that returns, returned at each element. -/
theorem mapM_eq_ok {f : α → Except ε β} {l : List α} {ys : List β} :
    l.mapM f = .ok ys ↔ List.Forall₂ (fun x y => f x = .ok y) l ys := by
  induction l generalizing ys with
  | nil => simp [eq_comm]
  | cons x l ih =>
    rw [List.mapM_cons, bind_eq_ok]
    constructor
    · rintro ⟨y, hy, h⟩
      obtain ⟨ys', hys, h⟩ := bind_eq_ok.1 h
      cases h
      exact .cons hy (ih.1 hys)
    · rintro (_ | ⟨hy, hys⟩)
      exact ⟨_, hy, bind_eq_ok.2 ⟨_, ih.2 hys, rfl⟩⟩

theorem mem_of_mapM_eq_ok {f : α → Except ε β} {l : List α} {ys : List β}
    (h : l.mapM f = .ok ys) {y : β} (hy : y ∈ ys) : ∃ x ∈ l, f x = .ok y :=
  (mapM_eq_ok.1 h).exists_of_mem_right hy

/-- The results of a loop are the results at its elements. -/
theorem mem_mapM_iff {f : α → Except ε β} {l : List α} {ys : List β} (h : l.mapM f = .ok ys)
    {y : β} : y ∈ ys ↔ ∃ x ∈ l, f x = .ok y := by
  refine ⟨mem_of_mapM_eq_ok h, ?_⟩
  intro ⟨x, hx, hy⟩
  induction mapM_eq_ok.1 h with
  | nil => cases hx
  | cons hz hzs ih =>
    rcases List.mem_cons.1 hx with rfl | hx
    · cases hz.symm.trans hy
      exact .head _
    · exact .tail _ (ih (mapM_eq_ok.2 hzs) hx)

/-- A loop of checks passes iff each one does. -/
theorem forM_eq_ok {f : α → Except ε Unit} {l : List α} :
    l.forM f = .ok () ↔ ∀ x ∈ l, f x = .ok () := by
  induction l with
  | nil => simp
  | cons x l ih =>
    show (f x >>= fun _ => l.forM f) = _ ↔ _
    rw [bind_eq_ok, List.forall_mem_cons, ← ih]
    exact ⟨fun ⟨_, h⟩ => h, fun h => ⟨(), h⟩⟩

theorem mapM_total {f : α → Except ε β} {l : List α} (h : ∀ x ∈ l, ∃ y, f x = .ok y) :
    ∃ ys, l.mapM f = .ok ys := by
  induction l with
  | nil => exact ⟨[], rfl⟩
  | cons x l ih =>
    rw [List.mapM_cons]
    exact bind_total (h x (by simp)) fun _ _ =>
      bind_total (ih fun y hy => h y (by simp [hy])) fun _ _ => ⟨_, rfl⟩

theorem mapM_congr {f g : α → Except ε β} {l : List α} (h : ∀ x ∈ l, f x = g x) :
    l.mapM f = l.mapM g := by
  induction l with
  | nil => rfl
  | cons x l ih => rw [List.mapM_cons, List.mapM_cons, h x (by simp), ih fun y hy => h y (by simp [hy])]

theorem mapM_ok {f : α → Except ε β} {g : α → β} {l : List α} (h : ∀ x ∈ l, f x = .ok (g x)) :
    l.mapM f = .ok (l.map g) := by
  refine mapM_eq_ok.2 ?_
  induction l with
  | nil => exact .nil
  | cons x l ih => exact .cons (h x (by simp)) (ih fun y hy => h y (by simp [hy]))

/-- What is read off the results of a loop, where it is read off the elements already. -/
theorem map_eq_of_mapM {γ : Type} {f : α → Except ε β} {g : β → γ} {h : α → γ} {l : List α}
    {ys : List β} (hys : l.mapM f = .ok ys) (hf : ∀ x y, f x = .ok y → g y = h x) :
    ys.map g = l.map h := by
  have hall := mapM_eq_ok.1 hys
  clear hys
  induction hall with
  | nil => rfl
  | cons hy _ ih => rw [List.map_cons, List.map_cons, hf _ _ hy, ih]

/-- A loop over computations that find something for the elements with a property. -/
theorem mapM_found {f : α → Except ε (Option β)} {p : α → Prop} [DecidablePred p] {S : α → β → Prop}
    {l : List α} (h : ∀ x ∈ l, ∃ found, f x = .ok found ∧
      if p x then ∃ y, found = some y ∧ S x y else found = none) :
    ∃ founds, l.mapM f = .ok founds ∧ List.Forall₂ S (l.filter p) (founds.filterMap id) := by
  induction l with
  | nil => exact ⟨[], rfl, .nil⟩
  | cons x l ih =>
    rw [List.forall_mem_cons] at h
    obtain ⟨first, hfirst, hspec⟩ := h.1
    obtain ⟨founds, hfounds, hall⟩ := ih h.2
    refine ⟨first :: founds, ?_, ?_⟩
    · rw [List.mapM_cons, hfirst, ok_bind, hfounds]
      rfl
    · by_cases hx : p x
      · rw [if_pos hx] at hspec
        obtain ⟨y, rfl, hy⟩ := hspec
        rw [List.filter_cons_of_pos (by simpa using hx)]
        exact .cons hy hall
      · rw [if_neg hx] at hspec
        subst hspec
        rw [List.filter_cons_of_neg (by simpa using hx)]
        exact hall

end Except

/-- A loop over lookups that all find something. -/
theorem Option.mapM_eq_some_map {α β : Type} {f : α → Option β} {g : α → β} {l : List α}
    (h : ∀ x ∈ l, f x = some (g x)) : l.mapM f = some (l.map g) := by
  induction l with
  | nil => rfl
  | cons x l ih =>
    rw [List.mapM_cons, h x (by simp), ih fun y hy => h y (by simp [hy])]
    rfl
