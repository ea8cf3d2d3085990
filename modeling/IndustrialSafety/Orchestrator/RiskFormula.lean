import IndustrialSafety.Agents.Base

/-!
# The fusion engine

`src/domain/orchestrator/risk_formula.py`: the weighted sum of the agents' risks with a bonus for
every further agent at or above the floor, capped at 100; the confidence is the least one.
-/

namespace RiskFormula

open Py

variable {R Uuid : Type} [Field R] [LinearOrder R]

/-- `FusionConfig`; `__post_init__` rejects other weights, and a dict has distinct keys. -/
structure FusionConfig (R : Type) [Field R] [LinearOrder R] where
  algorithmName : String
  algorithmVersion : Int
  agentWeights : List (String × R)
  interactionBonusKappa : R
  elevatedFloor : R
  names_nodup : (agentWeights.map Prod.fst).Nodup
  weights_sum : isclose (agentWeights.map Prod.snd).sum 1 0.000000001 0.000000001

def FusionConfig.default [IsStrictOrderedRing R] : FusionConfig R where
  algorithmName := "compound_risk_fusion"
  algorithmVersion := 1
  agentWeights := [("gas_risk", 0.4), ("permit_intelligence", 0.3), ("worker_exposure", 0.2),
    ("equipment_status", 0.1)]
  interactionBonusKappa := 0.4
  elevatedFloor := 40
  names_nodup := by simp
  weights_sum := by norm_num [isclose]

structure AgentContribution (R : Type) where
  agentName : String
  rawRisk : R
  weight : R
  weightedContribution : R
  confidence : R

structure FusionResult (R Uuid : Type) where
  zoneId : Uuid
  simTime : Instant
  compoundRiskScore : R
  confidence : R
  agentContributions : List (AgentContribution R)
  interactionBonusApplied : R
  rulesFired : List String

def calculateAgentContributions (agentResults : Results R) (config : FusionConfig R) :
    Result (List (AgentContribution R)) :=
  config.agentWeights.mapM fun (name, weight) => do
    let r ← agentResults.get name
    pure ⟨name, r.risk, weight, weight * r.risk, r.confidence⟩

def calculateWeightedBaseScore (contributions : List (AgentContribution R)) : R :=
  (contributions.map AgentContribution.weightedContribution).sum

def calculateInteractionMultiplier (agentResults : Results R) (config : FusionConfig R) :
    Result R := do
  let results ← config.agentWeights.mapM fun (name, _) => agentResults.get name
  let n := results.countP fun r => config.elevatedFloor ≤ r.risk
  pure (1 + config.interactionBonusKappa * ((n - 1 : Nat) : R))

def calculateCompoundRisk (baseScore multiplier : R) : R := min 100 (baseScore * multiplier)

def calculateCompoundConfidence (agentResults : Results R) (config : FusionConfig R) :
    Result R := do
  let results ← config.agentWeights.mapM fun (name, _) => agentResults.get name
  match (results.map AgentResult.confidence).min? with
  | some c => pure c
  | none => throw (.valueError "min() iterable argument is empty")

def fuse (zoneId : Uuid) (simTime : Instant) (agentResults : Results R) (config : FusionConfig R) :
    Result (FusionResult R Uuid) := do
  let contributions ← calculateAgentContributions agentResults config
  let baseScore := calculateWeightedBaseScore contributions
  let multiplier ← calculateInteractionMultiplier agentResults config
  let compoundRisk := calculateCompoundRisk baseScore multiplier
  let confidence ← calculateCompoundConfidence agentResults config
  let rulesFired :=
    "weighted_sum_fusion" :: if 1 < multiplier then ["interaction_bonus_applied"] else []
  pure ⟨zoneId, simTime, compoundRisk, confidence, contributions, multiplier, rulesFired⟩

end RiskFormula
