import Mathlib.Data.List.Induction
import Mathlib.Order.Basic

/-!
# Runs of a state machine

* `Along step P s l`: `P` holds of every state and action of the run of `l` from `s`.
* `outputs step out s l`: what the actions of the run emit, in order.

An invariant that every step keeps holds at the run's end (`Along.invariant`) and all along it
(`Along.imp`); what it gives holds in every state reached iff every step meets a condition that the step
needs (`along_iff_reached`). Where no step lowers a floor and no output
is below it, no output is below the first floor (`Along.floor_le_outputs`); where each step also raises
the floor to what it emits, the outputs never decrease (`Along.outputs_pairwise`). Where each step emits
under a new key and no key is lost, the keys of the outputs are distinct (`outputs_nodup`) and all there at
the end (`outputs_stored`).
-/

namespace Run

variable {σ α β γ : Type} {step : σ → α → σ} {P : σ → α → Prop} {s : σ} {l : List α}

def Along (step : σ → α → σ) (P : σ → α → Prop) : σ → List α → Prop
  | _, [] => True
  | s, a :: l => P s a ∧ Along step P (step s a) l

instance Along.decidable [∀ s a, Decidable (P s a)] :
    ∀ (s : σ) (l : List α), Decidable (Along step P s l)
  | _, [] => isTrue trivial
  | s, a :: l => @instDecidableAnd _ _ _ (Along.decidable (step s a) l)

theorem along_append {l' : List α} :
    Along step P s (l ++ l') ↔ Along step P s l ∧ Along step P (l.foldl step s) l' := by
  induction l generalizing s with
  | nil => simp [Along]
  | cons a l ih => simp [Along, ih, and_assoc]

theorem along_of_forall {Q : α → Prop} (h : ∀ a ∈ l, Q a) : Along step (fun _ => Q) s l := by
  induction l generalizing s with
  | nil => trivial
  | cons a l ih => exact ⟨h a (by simp), ih fun b hb => h b (by simp [hb])⟩

theorem Along.invariant {I : σ → Prop} (hstep : ∀ s a, I s → P s a → I (step s a))
    (h : Along step P s l) (hs : I s) : I (l.foldl step s) := by
  induction l generalizing s with
  | nil => exact hs
  | cons a l ih => exact ih h.2 (hstep s a hs h.1)

/-- What the invariant and the condition give for one step holds all along the run. -/
theorem Along.imp {I : σ → Prop} {Q : σ → α → Prop} (hstep : ∀ s a, I s → P s a → I (step s a))
    (hQ : ∀ s a, I s → P s a → Q s a) (h : Along step P s l) (hs : I s) : Along step Q s l := by
  induction l generalizing s with
  | nil => trivial
  | cons a l ih => exact ⟨hQ s a hs h.1, ih h.2 (hstep s a hs h.1)⟩

/-- Where a condition on the steps keeps an invariant that gives a property, and a step has the property
only if it meets the condition, the property holds in every state reached iff every step meets it. -/
theorem along_iff_reached {I J : σ → Prop} (hI : ∀ s, I s → J s)
    (hstep : ∀ s a, I s → P s a → I (step s a)) (hneeds : ∀ s a, I s → J (step s a) → P s a)
    (hs : I s) : Along step P s l ↔ ∀ l', l' <+: l → J (l'.foldl step s) := by
  induction l generalizing s with
  | nil =>
    refine iff_of_true trivial fun l' hl' => ?_
    rw [List.prefix_nil.1 hl']
    exact hI s hs
  | cons a l ih =>
    refine ⟨fun h l' hl' => ?_, fun h => ?_⟩
    · rcases List.prefix_cons_iff.1 hl' with rfl | ⟨t, rfl, ht⟩
      · exact hI s hs
      · exact (ih (hstep s a hs h.1)).1 h.2 t ht
    · have hfirst : [a] <+: a :: l := List.prefix_cons_iff.2 (.inr ⟨[], rfl, List.nil_prefix⟩)
      have hP := hneeds s a hs (h [a] hfirst)
      refine ⟨hP, (ih (hstep s a hs hP)).2 fun t ht => ?_⟩
      exact h (a :: t) (List.prefix_cons_iff.2 (.inr ⟨t, rfl, ht⟩))

/-! ## The states reached -/

/-- A state that the run of `l` from `s` reaches, the first and the last included. -/
def Reached (step : σ → α → σ) (s : σ) (l : List α) (s' : σ) : Prop :=
  ∃ l', l' <+: l ∧ l'.foldl step s = s'

theorem reached_last : Reached step s l (l.foldl step s) := ⟨l, List.prefix_rfl, rfl⟩

theorem Reached.append {s' : σ} (h : Reached step s l s') (l' : List α) :
    Reached step s (l ++ l') s' := by
  obtain ⟨before, hbefore, rfl⟩ := h
  exact ⟨before, hbefore.trans (List.prefix_append l l'), rfl⟩

/-- An invariant that refers to the states reached so far, and is kept as there are more of them. -/
theorem reached_invariant {I : (σ → Prop) → σ → Prop}
    (hmono : ∀ V V' : σ → Prop, (∀ x, V x → V' x) → ∀ x, I V x → I V' x)
    (hstep : ∀ V x a, V x → I V x → I V (step x a)) (hs : I (Reached step s []) s) :
    I (Reached step s l) (l.foldl step s) := by
  induction l using List.reverseRecOn with
  | nil => exact hs
  | append_singleton l a ih =>
    rw [List.foldl_append]
    refine hstep _ _ a (reached_last.append [a]) ?_
    exact hmono _ _ (fun x hx => hx.append [a]) _ ih

/-! ## Outputs -/

def outputs (step : σ → α → σ) (out : σ → α → Option β) : σ → List α → List β
  | _, [] => []
  | s, a :: l => (out s a).toList ++ outputs step out (step s a) l

section
variable {κ : Type} {out : σ → α → Option β} {keys : σ → κ → Prop} {key : β → κ}

/-- Where a step adds to a counter the outputs it counts, a run does. -/
theorem outputs_count (count : σ → ℕ) (p : β → Bool)
    (hstep : ∀ s a, count (step s a) = count s + (out s a).toList.countP p) :
    count (l.foldl step s) = count s + (outputs step out s l).countP p := by
  induction l generalizing s with
  | nil => rfl
  | cons a l ih =>
    show count (l.foldl step (step s a)) = _
    rw [ih, hstep, outputs, List.countP_append, Nat.add_assoc]

/-- What an invariant gives for one output holds of every output. -/
theorem outputs_forall {I : σ → Prop} {Q : β → Prop} (hstep : ∀ s a, I s → I (step s a))
    (hout : ∀ s a x, I s → out s a = some x → Q x) (hs : I s) :
    ∀ x ∈ outputs step out s l, Q x := by
  induction l generalizing s with
  | nil => exact nofun
  | cons a l ih =>
    intro x hx
    rcases List.mem_append.1 hx with hx | hx
    · exact hout s a x hs (Option.mem_toList.1 hx)
    · exact ih (hstep s a hs) x hx

theorem keys_foldl (hkeep : ∀ s a k, keys s k → keys (step s a) k) {k : κ} (h : keys s k) :
    keys (l.foldl step s) k := by
  induction l generalizing s with
  | nil => exact h
  | cons a l ih => exact ih (hkeep s a k h)

/-- Where no step loses a key, and a step emits under a key that is new and that it stores: the keys of
the outputs are new and still there at the end. -/
theorem outputs_stored (hkeep : ∀ s a k, keys s k → keys (step s a) k)
    (hout : ∀ s a x, out s a = some x → ¬ keys s (key x) ∧ keys (step s a) (key x)) :
    ∀ x ∈ outputs step out s l, ¬ keys s (key x) ∧ keys (l.foldl step s) (key x) := by
  induction l generalizing s with
  | nil => exact nofun
  | cons a l ih =>
    intro x hx
    rcases List.mem_append.1 hx with hx | hx
    · obtain ⟨hnew, hstored⟩ := hout s a x (Option.mem_toList.1 hx)
      exact ⟨hnew, keys_foldl (l := l) hkeep hstored⟩
    · obtain ⟨hnew, hstored⟩ := ih x hx
      exact ⟨fun h => hnew (hkeep s a _ h), hstored⟩

/-- … and no key is emitted twice. -/
theorem outputs_nodup (hkeep : ∀ s a k, keys s k → keys (step s a) k)
    (hout : ∀ s a x, out s a = some x → ¬ keys s (key x) ∧ keys (step s a) (key x)) :
    ((outputs step out s l).map key).Nodup := by
  induction l generalizing s with
  | nil => exact .nil
  | cons a l ih =>
    rw [outputs, List.map_append]
    refine List.nodup_append.2 ⟨?_, ih, fun k hk k' hk' => ?_⟩
    · cases out s a <;> simp
    · obtain ⟨x, hx, rfl⟩ := List.mem_map.1 hk
      obtain ⟨y, hy, rfl⟩ := List.mem_map.1 hk'
      intro heq
      refine (outputs_stored hkeep hout y hy).1 ?_
      rw [← heq]
      exact (hout s a x (Option.mem_toList.1 hx)).2

end

variable [Preorder γ] {out : σ → α → Option β} {floor : σ → γ} {value : β → γ}

theorem Along.floor_le_outputs (hout : ∀ s a, P s a → ∀ x, out s a = some x → floor s ≤ value x)
    (hstep : ∀ s a, P s a → floor s ≤ floor (step s a)) (h : Along step P s l) :
    ∀ x ∈ outputs step out s l, floor s ≤ value x := by
  induction l generalizing s with
  | nil => exact nofun
  | cons a l ih =>
    intro x hx
    rcases List.mem_append.1 hx with hx | hx
    · exact hout s a h.1 x (Option.mem_toList.1 hx)
    · exact (hstep s a h.1).trans (ih h.2 x hx)

theorem Along.outputs_pairwise
    (hout : ∀ s a, P s a → ∀ x, out s a = some x → floor s ≤ value x)
    (hstep : ∀ s a, P s a → floor s ≤ floor (step s a))
    (hraise : ∀ s a, P s a → ∀ x, out s a = some x → value x ≤ floor (step s a))
    (h : Along step P s l) : (outputs step out s l).Pairwise fun x y => value x ≤ value y := by
  induction l generalizing s with
  | nil => exact .nil
  | cons a l ih =>
    refine List.pairwise_append.2 ⟨?_, ih h.2, fun x hx y hy => ?_⟩
    · cases out s a <;> simp
    · exact (hraise s a h.1 x (Option.mem_toList.1 hx)).trans
        (h.2.floor_le_outputs hout hstep y hy)

end Run
