import IndustrialSafety.Agents.Proof.Spec

/-!
# Risks and confidences in range

Every result of an agent under its default configuration has a risk in `[0, 100]` and a confidence in
`[0, 1]` (`AgentResult.InRange`). Gas Risk needs a positive threshold, a floor in range and a
non-negative latest reading (`GasRisk.ContextOk`); Permit Intelligence the range of the gas risk's
confidence; the other two need nothing.
-/

open Py

variable {R Uuid : Type} [Field R] [LinearOrder R] {M : Math R} {input : AgentInput R Uuid}
  {r : AgentResult R}

structure AgentResult.InRange (r : AgentResult R) : Prop where
  risk_nonneg : 0 ≤ r.risk
  risk_le : r.risk ≤ 100
  confidence_nonneg : 0 ≤ r.confidence
  confidence_le : r.confidence ≤ 1

namespace GasRisk

/-- A context whose score is in range: a positive threshold, a floor in `[0, 100]` and a latest
reading that is not negative. -/
structure ContextOk (context : AgentContext R Uuid) : Prop where
  threshold_pos : ∀ t, context.alarmThreshold = some t → 0 < t
  floor_range : ∀ f, context.elevatedFloorOverride = some f → 0 ≤ f ∧ f ≤ 100
  latest_nonneg : ∀ latest, (context.readings.getD []).getLast? = some latest → 0 ≤ latest.value

variable [IsStrictOrderedRing R]

theorem steepness_nonneg (M : Math R) : 0 ≤ (GasRiskConfig.default M).steepnessK :=
  mul_nonneg zero_le_two M.ln2_pos.le

theorem decayLambda_nonneg (M : Math R) : 0 ≤ (GasRiskConfig.default M).decayLambda :=
  div_nonneg M.ln2_pos.le (by norm_num)

theorem floorOf_range {context : AgentContext R Uuid} (h : ContextOk context) :
    0 ≤ floorOf (GasRiskConfig.default M) context ∧ floorOf (GasRiskConfig.default M) context ≤ 100 := by
  unfold floorOf
  cases hf : context.elevatedFloorOverride with
  | none => exact ⟨by norm_num [GasRiskConfig.default], by norm_num [GasRiskConfig.default]⟩
  | some f => exact h.floor_range f hf

theorem readingRisk_range {latest : GasReading R} {threshold floor : R} {simTime : Instant}
    (ht : 0 < threshold) (hv : 0 ≤ latest.value) (hf : 0 ≤ floor ∧ floor ≤ 100) :
    0 ≤ readingRisk M latest threshold floor simTime (GasRiskConfig.default M) ∧
      readingRisk M latest threshold floor simTime (GasRiskConfig.default M) ≤ 100 := by
  have h0 : 0 ≤ M.saturate 100 (GasRiskConfig.default M).steepnessK (latest.value / threshold) :=
    Exponential.saturate_nonneg (by norm_num) (steepness_nonneg M) (div_nonneg hv ht.le)
  have h1 : M.saturate 100 (GasRiskConfig.default M).steepnessK (latest.value / threshold) ≤ 100 :=
    Exponential.saturate_le (by norm_num)
  unfold readingRisk
  dsimp only
  split
  · exact ⟨h0, h1⟩
  · rename_i hd
    have hw := (M.decay_pos (GasRiskConfig.default M).decayLambda
      (minutes (simTime - latest.timestamp))).le
    have hw1 := M.decay_le_one (decayLambda_nonneg M) (le_of_lt (not_le.1 hd))
    exact ⟨le_relax hw hw1 hf.1 h0, relax_le hw hw1 hf.2 h1⟩

theorem calculateConfidence_range (readings : List (GasReading R)) (lastCalibratedAt : Option Instant)
    (simTime : Instant) :
    0 ≤ calculateConfidence M readings lastCalibratedAt simTime (GasRiskConfig.default M) ∧
      calculateConfidence M readings lastCalibratedAt simTime (GasRiskConfig.default M) ≤ 1 := by
  unfold calculateConfidence
  split
  · exact ⟨by norm_num [GasRiskConfig.default], by norm_num [GasRiskConfig.default]⟩
  · have hcal : 0 ≤ calibrationScore lastCalibratedAt simTime (GasRiskConfig.default M) := by
      unfold calibrationScore
      repeat' split
      all_goals norm_num [GasRiskConfig.default]
    have hhist : (0 : R) ≤ if (GasRiskConfig.default M).minReadingsForRegression ≤ readings.length
        then 1 else (GasRiskConfig.default M).insufficientHistoryConfidenceFloor := by
      split
      · exact zero_le_one
      · norm_num [GasRiskConfig.default]
    refine ⟨le_min (le_min (M.decay_pos _ _).le hcal) hhist, ?_⟩
    exact (min_le_left _ _).trans ((min_le_left _ _).trans
      (M.decay_le_one (decayLambda_nonneg M) (le_max_right _ _)))

theorem evaluate_inRange (hc : ContextOk input.context)
    (h : evaluate M (GasRiskConfig.default M) input = .ok r) : r.InRange := by
  obtain ⟨threshold, ht, hrisk, hconf, -⟩ := evaluate_ok h
  have hfloor := floorOf_range (M := M) hc
  have hconf' := calculateConfidence_range (M := M) (input.context.readings.getD [])
    input.context.lastCalibratedAt input.simTime
  rw [← hconf] at hconf'
  rcases calculateRisk_ok.1 hrisk with ⟨-, hr⟩ | ⟨latest, hl, -, hr⟩
  · rw [← hr] at hfloor
    exact ⟨hfloor.1, hfloor.2, hconf'.1, hconf'.2⟩
  · obtain ⟨h0, h100⟩ : 0 ≤ r.risk ∧ r.risk ≤ 100 := by
      rw [hr]
      exact readingRisk_range (hc.threshold_pos threshold ht) (hc.latest_nonneg latest hl) hfloor
    exact ⟨h0, h100, hconf'.1, hconf'.2⟩

end GasRisk

namespace EquipmentStatus

variable [IsStrictOrderedRing R]

theorem evaluate_inRange (h : evaluate M (EquipmentStatusConfig.default M) input = .ok r) :
    r.InRange := by
  obtain ⟨groups, -, hrisk, hconf, -⟩ := evaluate_ok h
  have hk : 0 ≤ (EquipmentStatusConfig.default M).steepnessK := mul_nonneg zero_le_two M.ln2_pos.le
  have hrisk' : 0 ≤ r.risk ∧ r.risk ≤ 100 := by
    rw [hrisk]
    unfold calculateRisk
    split
    · exact ⟨le_rfl, by norm_num⟩
    · exact ⟨Exponential.saturate_nonneg (by norm_num) hk (by positivity),
        Exponential.saturate_le (by norm_num)⟩
  have hconf' : 0 ≤ r.confidence ∧ r.confidence ≤ 1 := by
    rw [hconf]
    unfold calculateConfidence
    split
    · exact ⟨zero_le_one, le_rfl⟩
    · exact ⟨by norm_num [EquipmentStatusConfig.default],
        by norm_num [EquipmentStatusConfig.default]⟩
  exact ⟨hrisk'.1, hrisk'.2, hconf'.1, hconf'.2⟩

end EquipmentStatus

namespace WorkerExposure

variable [IsStrictOrderedRing R]

theorem calculateRisk_range (headcount : Nat) (weight : R) :
    0 ≤ calculateRisk M headcount weight (WorkerExposureConfig.default M) ∧
      calculateRisk M headcount weight (WorkerExposureConfig.default M) ≤ 100 := by
  have hk : 0 ≤ (WorkerExposureConfig.default M).steepnessK := mul_nonneg zero_le_two M.ln2_pos.le
  unfold calculateRisk
  dsimp only
  split
  · exact ⟨le_rfl, by norm_num⟩
  · rename_i hw
    exact ⟨Exponential.saturate_nonneg (by norm_num) hk (not_le.1 hw).le,
      Exponential.saturate_le (by norm_num)⟩

theorem evaluate_inRange (h : evaluate M (WorkerExposureConfig.default M) input = .ok r) :
    r.InRange := by
  obtain ⟨gasRisk, -, hrisk, hconf, -⟩ := evaluate_ok h
  have hrisk' : 0 ≤ r.risk ∧ r.risk ≤ 100 := hrisk ▸ calculateRisk_range _ _
  have hconf' : 0 ≤ r.confidence ∧ r.confidence ≤ 1 := by
    rw [hconf]
    unfold calculateConfidence
    split
    · exact ⟨zero_le_one, le_rfl⟩
    · exact ⟨by norm_num [WorkerExposureConfig.default], by norm_num [WorkerExposureConfig.default]⟩
  exact ⟨hrisk'.1, hrisk'.2, hconf'.1, hconf'.2⟩

end WorkerExposure

namespace PermitIntelligence

variable [IsStrictOrderedRing R]

theorem riskOfRank_range (n : Nat) : (0 : R) ≤ riskOfRank n ∧ (riskOfRank n : R) ≤ 100 := by
  match n with
  | 0 => exact ⟨le_rfl, by norm_num [riskOfRank]⟩
  | 1 => exact ⟨by norm_num [riskOfRank], by norm_num [riskOfRank]⟩
  | _ + 2 => exact ⟨show (0 : R) ≤ 90 by norm_num, show (90 : R) ≤ 100 by norm_num⟩

theorem evaluate_inRange
    (hg : ∀ g, input.upstreamResults "gas_risk" = some g → 0 ≤ g.confidence ∧ g.confidence ≤ 1)
    (h : evaluate PermitReasoningConfig.default input = .ok r) : r.InRange := by
  obtain ⟨gasRisk, hgas, hrisk, hconf, -⟩ := evaluate_ok h
  have hrisk' : 0 ≤ r.risk ∧ r.risk ≤ 100 := hrisk ▸ riskOfRank_range _
  obtain ⟨h0, h1⟩ := hg gasRisk hgas
  refine ⟨hrisk'.1, hrisk'.2, ?_, ?_⟩ <;> rw [hconf] <;> unfold calculateConfidence
  · refine le_min h0 ?_
    split
    · exact zero_le_one
    · norm_num [PermitReasoningConfig.default]
  · exact (min_le_left _ _).trans h1

end PermitIntelligence
