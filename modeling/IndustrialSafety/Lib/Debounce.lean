import Mathlib.Data.List.DropRight
import Mathlib.Data.List.Basic

/-!
# A debounced selector

A machine that holds a selection and changes it only after `dwell` consecutive observations of the
same candidate. `State.observe` is one observation, `run cand` a whole run whose candidates depend
on the current selection and the input.

* `pendingCount_eq`: the pending counter is the number of trailing entries of the history
  (`trace`) that observed the pending candidate against the current selection.
* `commit_iff`: the selection changes from `t` to `c` at an input iff the last `dwell` entries of
  the history are all "`c` observed against `t`".
* `run_above_iff`: on inputs whose candidates stay in an upper set, the selection ends in the set
  iff it started there or some candidate is observed `dwell` times in a row.
* `run_constant`: on one input over and over, the selection changes at most once.
* `changes_selections_le`: on any inputs, the selection changes at most once in `dwell` observations.
-/

namespace Debounce

variable {T X : Type}

/-- The selection, and the pending candidate with the number of times it was observed in a row. -/
structure State (T : Type) where
  current : T
  pending : Option T := none
  ticks : Nat := 0

/-- The counter after observing `c`. -/
def State.count [DecidableEq T] (s : State T) (c : T) : Nat :=
  if s.pending = some c then s.ticks + 1 else 1

/-- One observation. -/
def State.observe [DecidableEq T] (dwell : Nat) (s : State T) : Option T → State T
  | none => ⟨s.current, none, 0⟩
  | some c =>
    if dwell ≤ s.count c then ⟨c, none, 0⟩ else ⟨s.current, some c, s.count c⟩

/-- The invariant of a state: the counter is positive exactly while a candidate is pending, stays
below `dwell`, and the pending candidate differs from the selection. -/
structure Wf (dwell : Nat) (s : State T) : Prop where
  pendingNone : s.pending = none ↔ s.ticks = 0
  ticksLt : s.ticks < dwell
  pendingNe : s.pending ≠ some s.current

section
variable [DecidableEq T] (dwell : Nat) (cand : T → X → Option T)

def step (s : State T) (x : X) : State T := s.observe dwell (cand s.current x)

def run (s : State T) (xs : List X) : State T := xs.foldl (step dwell cand) s

/-- The history of a run: each input's candidate with the selection it was observed against. -/
def trace (s : State T) : List X → List (T × Option T)
  | [] => []
  | x :: xs => (s.current, cand s.current x) :: trace (step dwell cand s x) xs

@[simp] theorem run_nil (s : State T) : run dwell cand s ([] : List X) = s := rfl

@[simp] theorem run_cons (s : State T) (x : X) (xs : List X) :
    run dwell cand s (x :: xs) = run dwell cand (step dwell cand s x) xs := rfl

theorem run_append (s : State T) (xs ys : List X) :
    run dwell cand s (xs ++ ys) = run dwell cand (run dwell cand s xs) ys :=
  List.foldl_append

theorem run_concat (s : State T) (xs : List X) (x : X) :
    run dwell cand s (xs ++ [x]) = step dwell cand (run dwell cand s xs) x := by
  rw [run_append]; rfl

theorem trace_append (s : State T) (xs ys : List X) :
    trace dwell cand s (xs ++ ys) =
      trace dwell cand s xs ++ trace dwell cand (run dwell cand s xs) ys := by
  induction xs generalizing s with
  | nil => rfl
  | cons x xs ih => simp only [List.cons_append, trace, ih, run_cons]

theorem trace_concat (s : State T) (xs : List X) (x : X) :
    trace dwell cand s (xs ++ [x]) = trace dwell cand s xs ++
      [((run dwell cand s xs).current, cand (run dwell cand s xs).current x)] := by
  rw [trace_append]; rfl

@[simp] theorem trace_length (s : State T) (xs : List X) :
    (trace dwell cand s xs).length = xs.length := by
  induction xs generalizing s with
  | nil => rfl
  | cons x xs ih => simp [trace, ih]

/-- Entry `j` of the history. -/
theorem trace_getElem (s : State T) (xs : List X) {j : Nat} (hj : j < xs.length)
    (hj' : j < (trace dwell cand s xs).length) : (trace dwell cand s xs)[j] =
      ((run dwell cand s (xs.take j)).current,
        cand (run dwell cand s (xs.take j)).current xs[j]) := by
  induction xs generalizing s j with
  | nil => simp at hj
  | cons x xs ih =>
    cases j with
    | zero => rfl
    | succ j =>
      exact ih (step dwell cand s x) (by simpa using hj) (by simpa [trace] using hj')

end

/-! ## The invariant -/

section
variable [DecidableEq T] {dwell : Nat} {cand : T → X → Option T}

theorem observe_wf {s : State T} {o : Option T} (hd : 1 ≤ dwell) (ho : o ≠ some s.current) :
    Wf dwell (s.observe dwell o) := by
  cases o with
  | none => exact ⟨by simp [State.observe], hd, by simp [State.observe]⟩
  | some c =>
    unfold State.observe
    dsimp only
    split
    · exact ⟨by simp, hd, by simp⟩
    · rename_i hn
      refine ⟨?_, by simpa using hn, ho⟩
      simp only [reduceCtorEq, false_iff]
      unfold State.count
      split <;> omega

theorem run_wf {s : State T} (hd : 1 ≤ dwell) (hc : ∀ t x, cand t x ≠ some t) (hs : Wf dwell s)
    (xs : List X) : Wf dwell (run dwell cand s xs) := by
  induction xs generalizing s with
  | nil => exact hs
  | cons x xs ih => exact ih (observe_wf hd (hc s.current x))

end

theorem init_wf {dwell : Nat} (hd : 1 ≤ dwell) (t : T) : Wf dwell (⟨t, none, 0⟩ : State T) :=
  ⟨by simp, hd, by simp⟩

/-! ## The counter and the history -/

/-- The number of trailing entries of `l` equal to `a`. -/
def streak {α : Type} [DecidableEq α] (a : α) (l : List α) : Nat :=
  (l.rtakeWhile (· = a)).length

section
variable {α : Type} [DecidableEq α]

theorem streak_concat (a b : α) (l : List α) :
    streak a (l ++ [b]) = if b = a then streak a l + 1 else 0 := by
  unfold streak
  rw [List.rtakeWhile_concat]
  by_cases h : b = a <;> simp [h]

theorem le_streak_iff (a : α) (l : List α) (n : Nat) :
    n ≤ streak a l ↔ List.replicate n a <:+ l := by
  induction l using List.reverseRecOn generalizing n with
  | nil => simp [streak]
  | append_singleton l b ih =>
    rw [streak_concat]
    cases n with
    | zero => simp
    | succ n =>
      rw [List.replicate_succ', List.suffix_concat_iff]
      by_cases h : b = a
      · subst h
        simp [ih n]
      · simp [h, Ne.symm h]

end

/-- A suffix of `n` copies of `a`, by position. -/
theorem replicate_suffix_iff {α : Type} {a : α} {n : Nat} {l : List α} :
    List.replicate n a <:+ l ↔
      n ≤ l.length ∧ ∀ j (h : j < l.length), l.length - n ≤ j → l[j] = a := by
  constructor
  · rintro ⟨p, rfl⟩
    refine ⟨by simp, fun j h hj => ?_⟩
    have hp : p.length ≤ j := by simpa using hj
    rw [List.getElem_append_right hp, List.getElem_replicate]
  · rintro ⟨hn, h⟩
    refine ⟨l.take (l.length - n), List.ext_getElem (by simp; omega) fun j h1 h2 => ?_⟩
    by_cases hj : j < l.length - n
    · rw [List.getElem_append_left (by simp; omega), List.getElem_take]
    · rw [List.getElem_append_right (by simp; omega), List.getElem_replicate]
      exact (h j h2 (by omega)).symm

section
variable [DecidableEq T] {dwell : Nat} {cand : T → X → Option T}

/-- The counter of a candidate: how often it was observed in a row, `0` if it is not pending. -/
def State.pendingCount (s : State T) (c : T) : Nat := if s.pending = some c then s.ticks else 0

theorem count_eq (s : State T) (c : T) : s.count c = s.pendingCount c + 1 := by
  unfold State.count State.pendingCount; split <;> rfl

/-- **The counter is the history's streak.** -/
theorem pendingCount_eq (hc : ∀ t x, cand t x ≠ some t) (t0 : T) (xs : List X) (c : T) :
    (run dwell cand ⟨t0, none, 0⟩ xs).pendingCount c =
      streak ((run dwell cand ⟨t0, none, 0⟩ xs).current, some c)
        (trace dwell cand ⟨t0, none, 0⟩ xs) := by
  induction xs using List.reverseRecOn generalizing c with
  | nil => simp [State.pendingCount, streak, trace]
  | append_singleton xs x ih =>
    rw [run_concat, trace_concat, streak_concat]
    generalize run dwell cand ⟨t0, none, 0⟩ xs = s at ih ⊢
    have hne := hc s.current x
    unfold step
    cases h : cand s.current x with
    | none => simp [State.observe, State.pendingCount]
    | some d =>
      rw [h] at hne
      have hd : d ≠ s.current := fun e => hne (by rw [e])
      unfold State.observe
      dsimp only
      split
      · -- committed: no entry was observed against the new selection
        have : ¬(s.current = d ∧ d = c) := fun e => hd e.1.symm
        simp [State.pendingCount, this]
      · by_cases hdc : d = c
        · subst hdc
          simp [State.pendingCount, ← ih, count_eq s d]
        · simp [State.pendingCount, hdc]

/-- **When the selection changes**: exactly when the last `dwell` entries of the history all
observed `c` against `t`. -/
theorem commit_iff (hd : 1 ≤ dwell) (hc : ∀ t x, cand t x ≠ some t) (t0 : T) (xs : List X) (x : X)
    (t c : T) :
    ((run dwell cand ⟨t0, none, 0⟩ xs).current = t ∧
        (run dwell cand ⟨t0, none, 0⟩ (xs ++ [x])).current = c ∧ t ≠ c) ↔
      List.replicate dwell (t, some c) <:+ trace dwell cand ⟨t0, none, 0⟩ (xs ++ [x]) := by
  have hcount : (run dwell cand ⟨t0, none, 0⟩ xs).pendingCount c = _ := pendingCount_eq hc t0 xs c
  rw [← le_streak_iff, trace_concat, streak_concat, run_concat]
  generalize run dwell cand ⟨t0, none, 0⟩ xs = s at hcount ⊢
  have hne := hc s.current x
  unfold step
  cases h : cand s.current x with
  | none =>
    simp only [State.observe, Prod.mk.injEq, reduceCtorEq, and_false, ↓reduceIte]
    constructor
    · rintro ⟨h1, h2, h3⟩; exact absurd (h1.symm.trans h2) h3
    · omega
  | some d =>
    rw [h] at hne
    unfold State.observe
    dsimp only
    by_cases hs : s.current = t ∧ d = c
    · -- one more observation of `c` against `t`
      obtain ⟨rfl, rfl⟩ := hs
      have hsd : s.current ≠ d := fun e => hne (by rw [e])
      rw [if_pos rfl, ← hcount, count_eq]
      by_cases hn : dwell ≤ s.pendingCount d + 1
      · simp [hn, hsd]
      · simp [hn, hsd]
    · have hne' : (s.current, some d) ≠ (t, some c) := by simpa using hs
      rw [if_neg (c := (s.current, some d) = (t, some c)) hne']
      constructor
      · rintro ⟨rfl, h2, h3⟩
        split at h2
        · exact absurd ⟨rfl, h2⟩ hs
        · exact absurd h2 h3
      · omega

end

/-! ## Runs within an upper set -/

/-- The pending observations of a state, as a list. -/
def State.pendingRun (s : State T) : List T :=
  match s.pending with
  | some p => List.replicate s.ticks p
  | none => []

theorem pendingRun_length_lt {dwell : Nat} {s : State T} (hs : Wf dwell s) :
    s.pendingRun.length < dwell := by
  have := hs.ticksLt
  unfold State.pendingRun
  split
  · simpa using this
  · simp; omega

/-- A run of `n` copies does not reach back into fewer than `n` copies of something else. -/
theorem replicate_infix_append {p a b : T} {n : Nat} (hpb : p ≠ b) :
    ∀ {k : Nat} {l : List T}, k < n →
      List.replicate n a <:+: List.replicate k p ++ b :: l → List.replicate n a <:+: b :: l
  | 0, _, _, h => h
  | k + 1, l, hk, h => by
    rw [List.replicate_succ, List.cons_append, List.infix_cons_iff] at h
    rcases h with h | h
    · -- the copies start at the first `p` and reach `b`
      exfalso
      rw [← List.cons_append, ← List.replicate_succ] at h
      obtain ⟨r, hr⟩ := h
      have h0 := congrArg (·[0]?) hr
      have h1 := congrArg (·[k + 1]?) hr
      simp [List.getElem?_append, hk, Nat.zero_lt_of_lt hk] at h0 h1
      exact hpb (h0.symm.trans h1)
    · exact replicate_infix_append hpb (by omega) h

section
variable [DecidableEq T] {dwell : Nat} {cand : T → X → Option T} {above : T → Prop}

/-- A selection in the set stays in it. -/
theorem run_above {xs : List X}
    (hkeep : ∀ t x c, x ∈ xs → above t → cand t x = some c → above c) {s : State T}
    (h : above s.current) : above (run dwell cand s xs).current := by
  induction xs generalizing s with
  | nil => exact h
  | cons x xs ih =>
    refine ih (fun t y c hy => hkeep t y c (.tail _ hy)) ?_
    unfold step State.observe
    split
    · exact h
    · rename_i c hc
      split
      · exact hkeep _ _ _ (.head _) h hc
      · exact h

/-- **Runs within an upper set.** Every input has a `band` in the set, which is the candidate as
long as the selection is outside: the selection ends in the set iff it started there or the pending
observations and the bands contain `dwell` equal entries in a row. -/
theorem run_above_iff (above : T → Prop) (band : X → T) {xs : List X} (hband : ∀ x ∈ xs, above (band x))
    (henter : ∀ t x, x ∈ xs → ¬above t → cand t x = some (band x))
    (hkeep : ∀ t x c, x ∈ xs → above t → cand t x = some c → above c)
    {s : State T} (hs : Wf dwell s) :
    above (run dwell cand s xs).current ↔
      above s.current ∨ ∃ b, List.replicate dwell b <:+: s.pendingRun ++ xs.map band := by
  induction xs generalizing s with
  | nil =>
    have hlen := pendingRun_length_lt hs
    simp only [run_nil, List.map_nil, List.append_nil, iff_self_or]
    rintro ⟨b, hb⟩
    have := hb.length_le
    simp at this; omega
  | cons x xs ih =>
    by_cases habove : above s.current
    · simp only [habove, true_or, iff_true]
      exact run_above hkeep habove
    have hkeep' := fun t y c (hy : y ∈ xs) => hkeep t y c (.tail _ hy)
    have hcand := henter s.current x (.head _) habove
    rw [run_cons]
    unfold step State.observe
    rw [hcand]
    dsimp only
    by_cases hn : dwell ≤ s.count (band x)
    · -- the band of `x` commits
      rw [if_pos hn]
      have h1 : above (run dwell cand ⟨band x, none, 0⟩ xs).current :=
        run_above hkeep' (hband x (.head _))
      simp only [h1, true_iff]
      refine .inr ⟨band x, ?_⟩
      have hlt := hs.ticksLt
      unfold State.count at hn
      split at hn
      · rename_i hp
        have hdw : dwell = s.ticks + 1 := by omega
        rw [State.pendingRun, hp, hdw, List.replicate_succ', List.map_cons]
        exact ⟨[], xs.map band, by simp⟩
      · have hdw : dwell = 1 := by omega
        rw [hdw]
        exact ⟨s.pendingRun, xs.map band, by simp⟩
    · rw [if_neg hn, ih (fun y hy => hband y (.tail _ hy)) (fun t y hy => henter t y (.tail _ hy))
        hkeep' (by
          have : Wf dwell (s.observe dwell (some (band x))) :=
            observe_wf (by have := hs.ticksLt; omega) (fun e => habove (by
              rw [Option.some.injEq] at e; rw [← e]; exact hband x (.head _)))
          simpa [State.observe, hn] using this)]
      refine or_congr Iff.rfl (exists_congr fun b => ?_)
      by_cases hp : s.pending = some (band x)
      · rw [State.pendingRun, State.pendingRun, hp, State.count, if_pos hp]
        simp [List.replicate_succ', List.append_assoc]
      · -- a different candidate was pending: its observations are lost
        have hcount : s.count (band x) = 1 := by rw [State.count, if_neg hp]
        simp only [State.pendingRun, hcount, List.map_cons, List.replicate_one,
          List.singleton_append]
        constructor
        · exact fun h => List.infix_append_of_infix_right h
        · intro h
          cases hpend : s.pending with
          | none => simpa [hpend] using h
          | some p =>
            rw [hpend] at h hp
            exact replicate_infix_append (fun e => hp (by rw [e])) hs.ticksLt h

end

/-! ## Runs on one input -/

section
variable [DecidableEq T] {dwell : Nat} {cand : T → X → Option T} {s : State T} {x : X}

theorem run_replicate_none (hc : cand s.current x = none) (n : Nat) :
    run dwell cand s (List.replicate (n + 1) x) = ⟨s.current, none, 0⟩ := by
  induction n with
  | zero =>
    rw [List.replicate_one, run_cons, run_nil, step, hc]
    rfl
  | succ n ih =>
    rw [List.replicate_succ', run_concat, ih, step, hc]
    rfl

/-- The candidate is counted until it commits. -/
theorem run_replicate_some {c : T} (hc : cand s.current x = some c) (hnext : cand c x = none)
    (n : Nat) : run dwell cand s (List.replicate (n + 1) x) =
      if dwell ≤ s.pendingCount c + (n + 1) then ⟨c, none, 0⟩
      else ⟨s.current, some c, s.pendingCount c + (n + 1)⟩ := by
  induction n with
  | zero =>
    rw [List.replicate_one, run_cons, run_nil, step, hc, State.observe, count_eq]
  | succ n ih =>
    rw [List.replicate_succ', run_concat, ih]
    by_cases hn : dwell ≤ s.pendingCount c + (n + 1)
    · rw [if_pos hn, if_pos (by omega), step, hnext]
      rfl
    · rw [if_neg hn, step, hc, State.observe, count_eq, State.pendingCount, if_pos rfl]
      rfl

/-- **A constant input settles the selection**: it changes at most once, within `dwell` observations,
when no candidate has a further candidate on that input. -/
theorem run_constant (hs : Wf dwell s) (hstop : ∀ c, cand s.current x = some c → cand c x = none) :
    (∃ k, ∀ n, (run dwell cand s (List.replicate n x)).current =
        if n < k then s.current else (cand s.current x).getD s.current) ∧
      run dwell cand s (List.replicate dwell x) =
        ⟨(cand s.current x).getD s.current, none, 0⟩ := by
  have hlt := hs.ticksLt
  obtain ⟨d, rfl⟩ : ∃ d, dwell = d + 1 := ⟨dwell - 1, by omega⟩
  cases hc : cand s.current x with
  | none =>
    refine ⟨⟨0, fun n => ?_⟩, run_replicate_none hc d⟩
    cases n with
    | zero => rfl
    | succ n =>
      rw [run_replicate_none hc]
      rfl
  | some c =>
    have hcount : s.pendingCount c < d + 1 := by
      unfold State.pendingCount
      split <;> omega
    refine ⟨⟨d + 1 - s.pendingCount c, fun n => ?_⟩, ?_⟩
    · cases n with
      | zero => rw [if_pos (by omega)]; rfl
      | succ n =>
        rw [run_replicate_some hc (hstop c hc)]
        by_cases hn : d + 1 ≤ s.pendingCount c + (n + 1)
        · rw [if_pos hn, if_neg (by omega)]
          rfl
        · rw [if_neg hn, if_pos (by omega)]
    · rw [run_replicate_some hc (hstop c hc), if_pos (by omega)]
      rfl

end

/-! ## How often the selection changes -/

/-- The selections of a run, after each input. -/
def selections [DecidableEq T] (dwell : Nat) (cand : T → X → Option T) (s : State T) : List X → List T
  | [] => []
  | x :: xs => (step dwell cand s x).current :: selections dwell cand (step dwell cand s x) xs

@[simp] theorem selections_length [DecidableEq T] (dwell : Nat) (cand : T → X → Option T) (s : State T)
    (xs : List X) : (selections dwell cand s xs).length = xs.length := by
  induction xs generalizing s with
  | nil => rfl
  | cons x xs ih => simp [selections, ih]

/-- How often consecutive entries differ. -/
def changes [DecidableEq T] : T → List T → Nat
  | _, [] => 0
  | t, u :: us => (if u = t then 0 else 1) + changes u us

theorem changes_map {U : Type} [DecidableEq T] [DecidableEq U] {f : T → U}
    (hf : Function.Injective f) (t : T) (ts : List T) :
    changes (f t) (ts.map f) = changes t ts := by
  induction ts generalizing t with
  | nil => rfl
  | cons u us ih => simp only [List.map_cons, changes, hf.eq_iff, ih]

section
variable [DecidableEq T]

/-- The counter pays for a change: one observation adds at most one to it, a change takes `dwell`. -/
theorem observe_cost (dwell : Nat) (s : State T) (o : Option T) :
    dwell * (if (s.observe dwell o).current = s.current then 0 else 1) + (s.observe dwell o).ticks ≤
      s.ticks + 1 := by
  have hcount : ∀ c, s.count c ≤ s.ticks + 1 := by
    intro c
    unfold State.count
    split <;> omega
  cases o with
  | none => simp [State.observe]
  | some c =>
    have := hcount c
    unfold State.observe
    dsimp only
    split
    · dsimp only
      split <;> omega
    · simpa using this

/-- **A run changes its selection at most once in `dwell` observations**, those already pending
included. -/
theorem changes_selections_le (dwell : Nat) (cand : T → X → Option T) (s : State T) (xs : List X) :
    dwell * changes s.current (selections dwell cand s xs) + (run dwell cand s xs).ticks ≤
      s.ticks + xs.length := by
  induction xs generalizing s with
  | nil => simp [selections, changes]
  | cons x xs ih =>
    have hstep := observe_cost dwell s (cand s.current x)
    have hrest := ih (step dwell cand s x)
    rw [selections, changes, run_cons, Nat.mul_add, List.length_cons]
    unfold step at hrest ⊢
    omega

end

end Debounce
