import IndustrialSafety.Agents.Proof.Spec

/-!
# The rules the agents fire

Every rule of a result an agent returns is one of the agent's own (`GasRisk.evaluate_rules`,
`EquipmentStatus.evaluate_rules`, `WorkerExposure.evaluate_rules`, `PermitIntelligence.evaluate_rules`).
-/

open Py

variable {R Uuid : Type} [Field R] [LinearOrder R] {M : Math R} {input : AgentInput R Uuid}
  {r : AgentResult R}

namespace GasRisk

def rules : List String :=
  ["missing_data_fail_safe", "stale_data_fail_safe", "saturating_threshold_function",
    "insufficient_history"]

theorem buildJustification_rules {readings : List (GasReading R)} {alarmThreshold elevatedFloor : R}
    {lastCalibratedAt : Option Instant} {simTime : Instant} {timeToThreshold : Option R}
    {config : GasRiskConfig R} {j : Justification R}
    (h : buildJustification readings alarmThreshold elevatedFloor lastCalibratedAt simTime
      timeToThreshold config = .ok j) : j.rulesFired ⊆ rules := by
  unfold buildJustification at h
  cases hl : readings.getLast? with
  | none =>
    rw [hl] at h
    cases h
    simp [rules]
  | some latest =>
    rw [hl] at h
    obtain ⟨pct, -, h⟩ := Except.bind_eq_ok.1 h
    cases h
    dsimp only
    split <;> split <;> simp [rules]

theorem evaluate_rules {config : GasRiskConfig R} (h : evaluate M config input = .ok r) :
    r.justification.rulesFired ⊆ rules := by
  obtain ⟨alarmThreshold, -, h⟩ := Except.bind_eq_ok.1 h
  obtain ⟨risk, -, h⟩ := Except.bind_eq_ok.1 h
  obtain ⟨timeToThreshold, -, h⟩ := Except.bind_eq_ok.1 h
  obtain ⟨justification, hj, h⟩ := Except.bind_eq_ok.1 h
  cases h
  exact buildJustification_rules hj

end GasRisk

namespace EquipmentStatus

def rules : List String :=
  ["missing_equipment_context", "confirmed_empty_inventory", "no_degradation",
    "common_cause_grouped_degradation_count"]

theorem evaluate_rules {config : EquipmentStatusConfig R} (h : evaluate M config input = .ok r) :
    r.justification.rulesFired ⊆ rules := by
  obtain ⟨groups, -, h⟩ := Except.bind_eq_ok.1 h
  cases h
  dsimp only [buildJustification]
  split
  · simp [rules]
  · split
    · simp [rules]
    · split <;> simp [rules]

end EquipmentStatus

namespace WorkerExposure

def rules : List String :=
  ["missing_location_fail_safe", "exposure_weighted_headcount", "unauthorized_presence"]

omit [Field R] [LinearOrder R] in
theorem buildJustification_rules (workers : List WorkerPresence) (contextPresent : Bool)
    (gasRiskScore tierWeight : R) (permitCoverage : PermitCoverage)
    (unauthorizedWorkers : List WorkerPresence) (config : WorkerExposureConfig R) :
    (buildJustification workers contextPresent gasRiskScore tierWeight permitCoverage
      unauthorizedWorkers config).rulesFired ⊆ rules := by
  dsimp only [buildJustification]
  split
  · simp [rules]
  · split <;> simp [rules]

theorem evaluate_rules {config : WorkerExposureConfig R} (h : evaluate M config input = .ok r) :
    r.justification.rulesFired ⊆ rules := by
  obtain ⟨gasRisk, -, h⟩ := Except.bind_eq_ok.1 h
  cases h
  exact buildJustification_rules ..

end WorkerExposure

namespace PermitIntelligence

def rules : List String :=
  ["fail_open_never", "no_open_permits", "permit_status_escalated", "permits_within_policy"]

theorem evaluate_rules {config : PermitReasoningConfig R} (h : evaluate config input = .ok r) :
    r.justification.rulesFired ⊆ rules := by
  obtain ⟨gasRisk, -, h⟩ := Except.bind_eq_ok.1 h
  obtain ⟨decisions, -, h⟩ := Except.bind_eq_ok.1 h
  obtain ⟨risks, -, h⟩ := Except.bind_eq_ok.1 h
  cases h
  dsimp only [buildJustification]
  split
  · simp [rules]
  · split
    · simp [rules]
    · split <;> simp [rules]

end PermitIntelligence
