import IndustrialSafety.Db.Models

/-!
# Feature vectors and their similarity

`src/historical/feature_vector.py` and `similarity.py`. `math.sqrt` is the parameter `sqrt`. A set of
agents is the list of its names in the order of `agentNames`.
-/

namespace Historical

open Py

/-- `AGENT_NAMES`. -/
def agentNames : List String :=
  ["gas_risk", "equipment_status", "worker_exposure", "permit_intelligence"]

structure FeatureVector (R : Type) where
  gasRisk : R
  equipmentRisk : R
  workerRisk : R
  permitRisk : R
  compoundRiskScore : R
  confidence : R
  tierOrdinal : Nat
  interactionBonus : R
  triggeredAgentCount : Nat
  trend : Int
  triggeredAgents : List String

variable {R Uuid : Type} [Field R] [LinearOrder R]

omit [LinearOrder R] in
/-- `as_tuple`: the nine dimensions that are compared. -/
def FeatureVector.asTuple (v : FeatureVector R) : List R :=
  [v.gasRisk, v.equipmentRisk, v.workerRisk, v.permitRisk, v.compoundRiskScore,
    v.confidence * 100, v.tierOrdinal * (100 / 3), (v.interactionBonus - 1) * 100,
    v.triggeredAgentCount * 25]

omit [LinearOrder R] in
/-- An absent contribution counts as no risk. -/
def agentRisk (agentContributions : List (Justification.Contribution R)) (agentName : String) : R :=
  ((agentContributions.find? (·.agentName = agentName)).map Justification.Contribution.risk).getD 0

def buildFeatureVector (assessment : RiskAssessment R Uuid)
    (previous : Option (RiskAssessment R Uuid)) : FeatureVector R :=
  let agentContributions := assessment.justification.agentContributions
  let triggered := agentNames.filter fun name => 0 < agentRisk agentContributions name
  { gasRisk := agentRisk agentContributions "gas_risk"
    equipmentRisk := agentRisk agentContributions "equipment_status"
    workerRisk := agentRisk agentContributions "worker_exposure"
    permitRisk := agentRisk agentContributions "permit_intelligence"
    compoundRiskScore := assessment.compoundRiskScore
    confidence := assessment.confidence
    tierOrdinal := assessment.tier.rank
    interactionBonus := assessment.justification.interactionBonusApplied
    triggeredAgentCount := triggered.length
    trend := match previous with
      | none => 0
      | some previous =>
        if previous.compoundRiskScore < assessment.compoundRiskScore then 1
        else if assessment.compoundRiskScore < previous.compoundRiskScore then -1
        else 0
    triggeredAgents := triggered }

/-! ## Similarity -/

omit [LinearOrder R] in
/-- `_WEIGHT_VECTOR`. -/
def weightVector : List R := [1, 1, 1, 1, 3 / 2, 1 / 2, 3 / 2, 1, 3 / 4]

omit [LinearOrder R] in
def weightedEuclideanDistance (sqrt : R → R) (a b : FeatureVector R) : R :=
  sqrt (weightVector.zipWith (fun weight diff => weight * diff * diff)
    (a.asTuple.zipWith (· - ·) b.asTuple)).sum

/-- The `similarity` of `similarity_score`. -/
def similarityScore (sqrt : R → R) (a b : FeatureVector R) : Result R :=
  div 1 (1 + weightedEuclideanDistance sqrt a b)

/-- The features two vectors agree on, and those they differ in. -/
def matchingAndDifferingFeatures (a b : FeatureVector R) (tolerance : R) :
    List String × List String :=
  let numericPairs := [("gas_risk", a.gasRisk, b.gasRisk),
    ("equipment_risk", a.equipmentRisk, b.equipmentRisk),
    ("worker_risk", a.workerRisk, b.workerRisk),
    ("permit_risk", a.permitRisk, b.permitRisk),
    ("compound_risk_score", a.compoundRiskScore, b.compoundRiskScore)]
  let numeric := numericPairs.map fun (name, aValue, bValue) =>
    (name, decide (|aValue - bValue| ≤ tolerance))
  let agents := ((a.triggeredAgents ++ b.triggeredAgents).dedup.insertionSort (· ≤ ·)).map
    fun agent => (s!"triggered:{agent}",
      decide (agent ∈ a.triggeredAgents ↔ agent ∈ b.triggeredAgents))
  let features := numeric ++ [("operational_status", decide (a.tierOrdinal = b.tierOrdinal)),
    ("interaction_bonus", decide (1 < a.interactionBonus ↔ 1 < b.interactionBonus))] ++ agents
  ((features.filter (·.2)).map Prod.fst, (features.filter (!·.2)).map Prod.fst)

end Historical
