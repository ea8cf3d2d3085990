import IndustrialSafety.Lib.Debounce
import IndustrialSafety.Orchestrator.Tiering
import Mathlib.Algebra.Order.Field.Rat

/-!
# The tiering engine is a debounced selector

A tier state whose `entryThreshold` is that of its tier (`Coherent`) is a `Debounce.State`, and
`transition` is one observation of `candidateFor` (`transition_debounce`); every state of a run from
`TierState.initial` is coherent (`run_wf`). With the library this gives when the tier changes
(`tier_change_iff`) and when sustained scores reach a tier (`run_reaches_iff`).
-/

namespace Tiering

open RiskFormula

/-! ## Tiers and bands -/

theorem rank_injective : Function.Injective Tier.rank := by
  intro s t h
  cases s <;> cases t <;> first | rfl | cases h

section
variable {R Uuid : Type} [Field R] [LinearOrder R] {config : TieringConfig R} {score : R}

/-- The thresholds are in the order of their tiers. -/
structure Ordered (config : TieringConfig R) : Prop where
  watch_le : config.watchThreshold ≤ config.elevatedThreshold
  elevated_le : config.elevatedThreshold ≤ config.criticalThreshold

/-- A score at a tier's threshold has a raw band at least that tier. -/
theorem rank_le_rawBand (ho : Ordered config) {tier : Tier}
    (h : thresholdForTier tier config ≤ score) :
    tier.rank ≤ (determineRawBand score config).rank := by
  obtain ⟨h1, h2⟩ := ho
  unfold determineRawBand
  cases tier <;> simp only [thresholdForTier] at h
  case normal => exact Nat.zero_le _
  case watch =>
    rw [if_pos h]
    split <;> [decide; split <;> decide]
  case elevated =>
    rw [if_pos h]
    split <;> decide
  case critical => rw [if_pos h]

theorem default_ordered [IsStrictOrderedRing R] : Ordered (TieringConfig.default : TieringConfig R) :=
  ⟨by norm_num [TieringConfig.default], by norm_num [TieringConfig.default]⟩

/-- The candidate against a tier entered at its own threshold. -/
def candidateFor (config : TieringConfig R) (tier : Tier) (f : FusionResult R Uuid) :
    Option Tier :=
  candidate tier (thresholdForTier tier config) f.compoundRiskScore config

/-- `c` is the candidate of the score against `tier`: the raw band, when it ranks above `tier`, or
below it with the score past the margin. -/
structure IsCandidate (config : TieringConfig R) (tier : Tier) (score : R) (c : Tier) : Prop where
  band : c = determineRawBand score config
  past : tier.rank < c.rank ∨
    c.rank < tier.rank ∧ score ≤ thresholdForTier tier config - config.deEscalationMargin

theorem candidateFor_eq_some {tier c : Tier} {f : FusionResult R Uuid} :
    candidateFor config tier f = some c ↔ IsCandidate config tier f.compoundRiskScore c := by
  unfold candidateFor candidate
  dsimp only
  constructor
  · intro h
    split at h
    · rename_i hlt
      cases h
      exact ⟨rfl, .inl hlt⟩
    · split at h
      · rename_i hlt
        cases h
        exact ⟨rfl, .inr hlt⟩
      · cases h
  · rintro ⟨rfl, h | h⟩
    · rw [if_pos h]
    · rw [if_neg (by omega), if_pos h]

theorem candidateFor_ne (tier : Tier) (f : FusionResult R Uuid) :
    candidateFor config tier f ≠ some tier := by
  intro h
  rcases (candidateFor_eq_some.1 h).past with h | ⟨h, -⟩ <;> exact lt_irrefl _ h

end

/-! ## Runs -/

section
variable {R Uuid : Type} [Field R] [LinearOrder R] (config : TieringConfig R)

/-- The tier state after a run of ticks. -/
def run (s : TierState R) (fs : List (FusionResult R Uuid)) : TierState R :=
  fs.foldl (fun s f => transition s f config) s

/-- The tier state as a debounced selection. -/
def debounce (s : TierState R) : Debounce.State Tier := ⟨s.currentTier, s.pendingTier, s.pendingTicks⟩

/-- The entry threshold is the one configured for the current tier. -/
def Coherent (s : TierState R) : Prop := s.entryThreshold = thresholdForTier s.currentTier config

/-- The invariant of a reachable tier state. -/
structure Wf (s : TierState R) : Prop where
  entryThreshold : s.entryThreshold = thresholdForTier s.currentTier config
  pendingNone : s.pendingTier = none ↔ s.pendingTicks = 0
  pendingTicksLt : s.pendingTicks < config.dwellTicks
  pendingNe : s.pendingTier ≠ some s.currentTier

variable {config}

theorem transition_coherent {s : TierState R} (h : Coherent config s) (f : FusionResult R Uuid) :
    Coherent config (transition s f config) := by
  unfold transition Coherent
  split
  · exact h
  · rename_i c _
    dsimp only
    generalize (if s.pendingTier = some c then s.pendingTicks + 1 else 1) = ticks
    split
    · rfl
    · exact h

/-- One transition is one observation of the candidate. -/
theorem transition_debounce {s : TierState R} (h : Coherent config s) (f : FusionResult R Uuid) :
    debounce (transition s f config) =
      Debounce.step config.dwellTicks (candidateFor config) (debounce s) f := by
  have hc : candidate s.currentTier s.entryThreshold f.compoundRiskScore config =
      candidateFor config s.currentTier f := by rw [candidateFor, ← h]
  have hd : candidateFor config (debounce s).current f = candidateFor config s.currentTier f := rfl
  unfold transition Debounce.step Debounce.State.observe Debounce.State.count
  rw [hc, hd]
  cases candidateFor config s.currentTier f with
  | none => rfl
  | some c =>
    by_cases hp : s.pendingTier = some c <;> simp only [debounce, hp, ↓reduceIte] <;> split <;> rfl

theorem run_coherent {s : TierState R} (h : Coherent config s) (fs : List (FusionResult R Uuid)) :
    Coherent config (run config s fs) := by
  induction fs generalizing s with
  | nil => exact h
  | cons f fs ih => exact ih (transition_coherent h f)

theorem run_debounce {s : TierState R} (h : Coherent config s) (fs : List (FusionResult R Uuid)) :
    debounce (run config s fs) =
      Debounce.run config.dwellTicks (candidateFor config) (debounce s) fs := by
  induction fs generalizing s with
  | nil => rfl
  | cons f fs ih =>
    rw [Debounce.run_cons, ← transition_debounce h f]
    exact ih (transition_coherent h f)

omit [LinearOrder R] in
theorem initial_coherent : Coherent config TierState.initial := rfl

/-- A run from the initial state, as a debounced run. -/
theorem debounce_run_initial (fs : List (FusionResult R Uuid)) :
    debounce (run config TierState.initial fs) =
      Debounce.run config.dwellTicks (candidateFor config) ⟨.normal, none, 0⟩ fs :=
  run_debounce initial_coherent fs

theorem currentTier_run_initial (fs : List (FusionResult R Uuid)) :
    (run config TierState.initial fs).currentTier =
      (Debounce.run config.dwellTicks (candidateFor config) ⟨.normal, none, 0⟩ fs).current :=
  congrArg Debounce.State.current (debounce_run_initial fs)

theorem debounce_wf (hd : 1 ≤ config.dwellTicks) (fs : List (FusionResult R Uuid)) :
    Debounce.Wf config.dwellTicks (debounce (run config TierState.initial fs)) := by
  rw [debounce_run_initial]
  exact Debounce.run_wf hd candidateFor_ne (Debounce.init_wf hd .normal) fs

theorem run_wf (hd : 1 ≤ config.dwellTicks) (fs : List (FusionResult R Uuid)) :
    Wf config (run config TierState.initial fs) := by
  obtain ⟨h1, h2, h3⟩ := debounce_wf hd fs
  exact ⟨run_coherent initial_coherent fs, h1, h2, h3⟩

/-- The tier changes from `t` to `c` at a step iff the last `dwellTicks` steps all had tier `t` and
candidate `c`. -/
theorem tier_change_iff (hd : 1 ≤ config.dwellTicks) (fs : List (FusionResult R Uuid)) {n : Nat}
    (hn : n < fs.length) (t c : Tier) :
    ((run config TierState.initial (fs.take n)).currentTier = t ∧
        (run config TierState.initial (fs.take (n + 1))).currentTier = c ∧ t ≠ c) ↔
      config.dwellTicks ≤ n + 1 ∧ ∀ j (hj : j < fs.length), j ≤ n → n < j + config.dwellTicks →
        (run config TierState.initial (fs.take j)).currentTier = t ∧
          IsCandidate config t fs[j].compoundRiskScore c := by
  have htake : fs.take (n + 1) = fs.take n ++ [fs[n]] := by simp
  simp only [currentTier_run_initial]
  rw [htake, Debounce.commit_iff hd candidateFor_ne, Debounce.replicate_suffix_iff, ← htake]
  have hlen : (fs.take (n + 1)).length = n + 1 := by simp; omega
  simp only [Debounce.trace_length, hlen]
  refine and_congr Iff.rfl (forall_congr' fun j => ?_)
  -- entry `j` of the history of the first `n + 1` steps
  constructor
  · intro h hj hjn hd
    have := h (by omega) (by omega)
    rw [Debounce.trace_getElem _ _ _ _ (by simp; omega), List.getElem_take, List.take_take,
      Nat.min_eq_left (by omega), Prod.mk.injEq] at this
    obtain ⟨rfl, h2⟩ := this
    exact ⟨rfl, candidateFor_eq_some.1 h2⟩
  · intro h hj hd
    obtain ⟨rfl, h2⟩ := h (by omega) (by omega) (by omega)
    rw [Debounce.trace_getElem _ _ _ _ (by simp; omega), List.getElem_take, List.take_take,
      Nat.min_eq_left (by omega), candidateFor_eq_some.2 h2]

/-- **The tier state machine**: the invariant of every reachable state, and when its tier changes. -/
theorem tier_machine (config : TieringConfig R) (hd : 1 ≤ config.dwellTicks)
    (fs : List (FusionResult R Uuid)) :
    Wf config (run config TierState.initial fs) ∧
      ∀ n (_ : n < fs.length) (t c : Tier),
        ((run config TierState.initial (fs.take n)).currentTier = t ∧
            (run config TierState.initial (fs.take (n + 1))).currentTier = c ∧ t ≠ c) ↔
          config.dwellTicks ≤ n + 1 ∧ ∀ j (hj : j < fs.length), j ≤ n → n < j + config.dwellTicks →
            (run config TierState.initial (fs.take j)).currentTier = t ∧
              IsCandidate config t fs[j].compoundRiskScore c :=
  ⟨run_wf hd fs, fun _ hn t c => tier_change_iff hd fs hn t c⟩

end

/-- A fusion result with the given score. -/
def scored (score : ℚ) : FusionResult ℚ Unit := ⟨(), 0, score, 1, [], 1, []⟩

/-- Two critical scores from the initial state. -/
theorem tier_machine_escalates :
    (run TieringConfig.default TierState.initial [scored 90, scored 90]).currentTier = .critical := by
  have h := (tier_machine TieringConfig.default (by decide) [scored 90, scored 90]).2 1 (by decide)
    .normal .critical
  refine (h.2 ⟨by decide, fun j hj _ _ => ?_⟩).2.1
  have hcand : candidateFor TieringConfig.default .normal (scored 90) = some .critical := by
    decide +kernel
  match j, hj with
  | 0, _ => exact ⟨rfl, candidateFor_eq_some.1 hcand⟩
  | 1, _ => exact ⟨by decide +kernel, candidateFor_eq_some.1 hcand⟩

/-! ## Sustained scores -/

section
variable {R Uuid : Type} [Field R] [LinearOrder R]

/-- The raw bands of a run. -/
def bands (config : TieringConfig R) (fs : List (FusionResult R Uuid)) : List Tier :=
  fs.map fun f => determineRawBand f.compoundRiskScore config

/-- **Sustained scores.** From a reachable state, on scores at or above the threshold of `tier`, the
final tier is at least `tier` iff it was so at the start or some raw band is observed `dwellTicks`
times in a row, the pending observations included. -/
theorem run_reaches_iff (config : TieringConfig R) (ho : Ordered config)
    (hd : 1 ≤ config.dwellTicks) (past fs : List (FusionResult R Uuid)) (tier : Tier)
    (hs : ∀ f ∈ fs, thresholdForTier tier config ≤ f.compoundRiskScore) :
    tier.rank ≤ (run config (run config TierState.initial past) fs).currentTier.rank ↔
      tier.rank ≤ (run config TierState.initial past).currentTier.rank ∨
        ∃ b, List.replicate config.dwellTicks b <:+:
          (debounce (run config TierState.initial past)).pendingRun ++ bands config fs := by
  have hband : ∀ f ∈ fs, tier.rank ≤ (determineRawBand f.compoundRiskScore config).rank :=
    fun f hf => rank_le_rawBand ho (hs f hf)
  have hcoherent : Coherent config (run config TierState.initial past) :=
    run_coherent initial_coherent past
  have hrun := congrArg Debounce.State.current (run_debounce hcoherent fs)
  -- a tier below `tier` is below every raw band
  have henter : ∀ t (f : FusionResult R Uuid), f ∈ fs → ¬tier.rank ≤ t.rank →
      candidateFor config t f = some (determineRawBand f.compoundRiskScore config) := by
    intro t f hf ht
    have := hband f hf
    exact candidateFor_eq_some.2 ⟨rfl, .inl (by omega)⟩
  have hkeep : ∀ t (f : FusionResult R Uuid) c, f ∈ fs → tier.rank ≤ t.rank →
      candidateFor config t f = some c → tier.rank ≤ c.rank := by
    intro t f c hf _ hc
    rw [(candidateFor_eq_some.1 hc).band]
    exact hband f hf
  have h := Debounce.run_above_iff (fun t => tier.rank ≤ t.rank) _ hband henter hkeep
    (debounce_wf hd past)
  rw [← hrun] at h
  exact h

end

/-- Two critical scores, again. -/
theorem run_reaches_critical :
    Tier.critical.rank ≤ (run TieringConfig.default (run TieringConfig.default TierState.initial
      ([] : List (FusionResult ℚ Unit))) [scored 90, scored 90]).currentTier.rank :=
  (run_reaches_iff TieringConfig.default default_ordered (by decide) [] [scored 90, scored 90]
    .critical (by decide +kernel)).2 (.inr ⟨.critical, [], [], by decide +kernel⟩)

/-- Scores above the watch threshold that alternate between two bands never leave the lowest tier. -/
theorem alternating_scores_missed :
    Ordered (TieringConfig.default : TieringConfig ℚ) ∧
      0 ≤ (TieringConfig.default : TieringConfig ℚ).deEscalationMargin ∧
      (TieringConfig.default : TieringConfig ℚ).dwellTicks = 2 ∧
      (∀ f ∈ [scored 50, scored 70, scored 50, scored 70],
        thresholdForTier .watch TieringConfig.default ≤ f.compoundRiskScore) ∧
      (run TieringConfig.default TierState.initial
        [scored 50, scored 70, scored 50, scored 70]).currentTier = .normal :=
  ⟨default_ordered, by decide +kernel, rfl, by decide +kernel, by decide +kernel⟩

/-! ## Constant scores -/

section
variable {R Uuid : Type} [Field R] [LinearOrder R] {config : TieringConfig R}

/-- A raw band has no candidate on its own score. -/
theorem candidateFor_settled {tier c : Tier} {f : FusionResult R Uuid}
    (h : candidateFor config tier f = some c) : candidateFor config c f = none := by
  have hband := (candidateFor_eq_some.1 h).band
  cases hnext : candidateFor config c f with
  | none => rfl
  | some d =>
    obtain ⟨rfl, hpast⟩ := candidateFor_eq_some.1 hnext
    rw [hband] at hpast
    omega

/-- Without a candidate, the tier is the raw band unless that is lower and the score is above the
margin. -/
theorem candidateFor_eq_none {tier : Tier} {f : FusionResult R Uuid}
    (h : candidateFor config tier f = none) :
    tier = determineRawBand f.compoundRiskScore config ↔
      ¬((determineRawBand f.compoundRiskScore config).rank < tier.rank ∧
        thresholdForTier tier config - config.deEscalationMargin < f.compoundRiskScore) := by
  have hnone : ∀ c, ¬IsCandidate config tier f.compoundRiskScore c := fun c hc => by
    rw [candidateFor_eq_some.2 hc] at h
    cases h
  constructor
  · rintro heq ⟨hlt, -⟩
    rw [← heq] at hlt
    exact lt_irrefl _ hlt
  · intro h
    rcases lt_trichotomy tier.rank (determineRawBand f.compoundRiskScore config).rank with
      hlt | heq | hlt
    · exact absurd ⟨rfl, .inl hlt⟩ (hnone _)
    · exact rank_injective heq
    · exact absurd ⟨rfl, .inr ⟨hlt, not_lt.1 fun hs => h ⟨hlt, hs⟩⟩⟩ (hnone _)

omit [LinearOrder R] in
/-- Of coherent states, the debounced selection is all there is. -/
theorem debounce_injective {s s' : TierState R} (h : Coherent config s) (h' : Coherent config s')
    (heq : debounce s = debounce s') : s = s' := by
  obtain ⟨tier, entry, pending, ticks⟩ := s
  obtain ⟨tier', entry', pending', ticks'⟩ := s'
  obtain ⟨rfl, rfl, rfl⟩ := Debounce.State.mk.inj heq
  obtain rfl : entry = thresholdForTier tier config := h
  obtain rfl : entry' = thresholdForTier tier config := h'
  rfl

/-- **Hysteresis converges.** From a reachable state, a constant score changes the tier at most once,
and after `dwellTicks` steps the state is a fixed point, whose tier is the raw band unless that is lower
and the score lies above the entry threshold minus the margin. -/
theorem run_converges (config : TieringConfig R) (hd : 1 ≤ config.dwellTicks)
    (past : List (FusionResult R Uuid)) (f : FusionResult R Uuid) :
    let state n := run config (run config TierState.initial past) (List.replicate n f)
    (∀ m n, (state (m + 1)).currentTier ≠ (state m).currentTier →
      (state (n + 1)).currentTier ≠ (state n).currentTier → m = n) ∧
    transition (state config.dwellTicks) f config = state config.dwellTicks ∧
    ((state config.dwellTicks).currentTier = determineRawBand f.compoundRiskScore config ↔
      ¬((determineRawBand f.compoundRiskScore config).rank <
          (state config.dwellTicks).currentTier.rank ∧
        (state config.dwellTicks).entryThreshold - config.deEscalationMargin <
          f.compoundRiskScore)) := by
  intro state
  have hcoherent : Coherent config (run config TierState.initial past) :=
    run_coherent initial_coherent past
  have hstate : ∀ n, Coherent config (state n) := fun n => run_coherent hcoherent _
  have hrun : ∀ n, debounce (state n) = Debounce.run config.dwellTicks (candidateFor config)
      (debounce (run config TierState.initial past)) (List.replicate n f) :=
    fun n => run_debounce hcoherent _
  have hstop : ∀ c, candidateFor config (debounce (run config TierState.initial past)).current f =
      some c → candidateFor config c f = none := fun _ => candidateFor_settled
  obtain ⟨⟨k, hk⟩, hend⟩ := Debounce.run_constant (debounce_wf hd past) hstop
  rw [← hrun] at hend
  have hnone : candidateFor config (state config.dwellTicks).currentTier f = none := by
    rw [show (state config.dwellTicks).currentTier = _ from congrArg Debounce.State.current hend]
    cases hc : candidateFor config (debounce (run config TierState.initial past)).current f with
    | none => exact hc
    | some c => exact hstop c hc
  refine ⟨fun m n hm hn => ?_, ?_, ?_⟩
  · -- the tier is one below step `k` and another from there on
    have htier : ∀ n, (state n).currentTier = if n < k then _ else _ := fun n =>
      (congrArg Debounce.State.current (hrun n)).trans (hk n)
    have hchange : ∀ n, (state (n + 1)).currentTier ≠ (state n).currentTier → n + 1 = k := by
      intro n hn
      rw [htier, htier] at hn
      by_contra hne
      by_cases hlt : n < k
      · rw [if_pos hlt, if_pos (by omega)] at hn
        exact hn rfl
      · rw [if_neg hlt, if_neg (by omega)] at hn
        exact hn rfl
    have h1 := hchange m hm
    have h2 := hchange n hn
    omega
  · refine debounce_injective (transition_coherent (hstate _) f) (hstate _) ?_
    rw [transition_debounce (hstate _)]
    change Debounce.State.observe _ _ (candidateFor config (state config.dwellTicks).currentTier f) = _
    rw [hnone, hend]
    rfl
  · rw [show (state config.dwellTicks).entryThreshold = _ from hstate _]
    exact candidateFor_eq_none hnone

end

/-- A score of 60 keeps a critical zone elevated no longer than two ticks, and then for good. -/
theorem run_converges_critical :
    let state n := run TieringConfig.default (run TieringConfig.default TierState.initial
      [scored 90, scored 90]) (List.replicate n (scored 60))
    transition (state 2) (scored 60) TieringConfig.default = state 2 :=
  (run_converges TieringConfig.default (by decide) [scored 90, scored 90] (scored 60)).2.1

end Tiering
