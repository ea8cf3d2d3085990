import IndustrialSafety.Agents.Base

/-!
# Worker Exposure

`src/domain/agents/worker_exposure.py`: the zone's headcount weighted by the tier of the gas risk
score. A missing location feed counts as the configured minimum headcount.
-/

namespace WorkerExposure

open Py

variable {R : Type} [Field R] [LinearOrder R]

structure WorkerExposureConfig (R : Type) where
  algorithmName : String
  algorithmVersion : Int
  formulaVersion : Int
  steepnessK : R
  watchThreshold : R
  elevatedThreshold : R
  criticalThreshold : R
  belowWatchWeight : R
  watchWeight : R
  elevatedWeight : R
  criticalWeight : R
  missingContextConfidence : R
  failSafeAssumedHeadcount : Nat

def WorkerExposureConfig.default (M : Math R) : WorkerExposureConfig R where
  algorithmName := "worker_exposure"
  algorithmVersion := 1
  formulaVersion := 1
  steepnessK := 2 * M.ln2
  watchThreshold := 40
  elevatedThreshold := 65
  criticalThreshold := 85
  belowWatchWeight := 0
  watchWeight := 1
  elevatedWeight := 2
  criticalWeight := 4
  missingContextConfidence := 0.1
  failSafeAssumedHeadcount := 1

def calculateTierWeight (gasRiskScore : R) (config : WorkerExposureConfig R) : R :=
  if config.criticalThreshold ≤ gasRiskScore then config.criticalWeight
  else if config.elevatedThreshold ≤ gasRiskScore then config.elevatedWeight
  else if config.watchThreshold ≤ gasRiskScore then config.watchWeight
  else config.belowWatchWeight

def calculateRisk (M : Math R) (headcount : Nat) (tierWeight : R)
    (config : WorkerExposureConfig R) : R :=
  let weightedExposure := (headcount : R) * tierWeight
  if weightedExposure ≤ 0 then 0 else M.saturate 100 config.steepnessK weightedExposure

def calculateConfidence (contextPresent : Bool) (config : WorkerExposureConfig R) : R :=
  if contextPresent then 1 else config.missingContextConfidence

def calculateUnauthorizedWorkers (workers : List WorkerPresence) (gasRiskScore : R)
    (permitCoverage : PermitCoverage) (config : WorkerExposureConfig R) : List WorkerPresence :=
  if permitCoverage.hasActivePermit ∨ gasRiskScore < config.watchThreshold then [] else workers

def buildJustification (workers : List WorkerPresence) (contextPresent : Bool)
    (gasRiskScore tierWeight : R) (permitCoverage : PermitCoverage)
    (unauthorizedWorkers : List WorkerPresence) (config : WorkerExposureConfig R) :
    Justification R :=
  let rulesFired :=
    if !contextPresent then ["missing_location_fail_safe"]
    else if unauthorizedWorkers.isEmpty then ["exposure_weighted_headcount"]
    else ["exposure_weighted_headcount", "unauthorized_presence"]
  ⟨rulesFired, .workerExposure config.formulaVersion config.algorithmName config.algorithmVersion
    workers.length gasRiskScore tierWeight permitCoverage.hasActivePermit unauthorizedWorkers⟩

/-- `WorkerExposureAgent.evaluate`. -/
def evaluate {Uuid : Type} (M : Math R) (config : WorkerExposureConfig R)
    (input : AgentInput R Uuid) : Result (AgentResult R) := do
  let gasRisk ← input.upstreamResults.get "gas_risk"
  let gasRiskScore := gasRisk.risk
  let contextPresent := input.context.workersPresent.isSome
  let workers := input.context.workersPresent.getD []
  -- no permit information is never read as "covered"
  let permitCoverage := input.context.permitCoverage.getD ⟨false⟩
  let headcount := if contextPresent then workers.length else config.failSafeAssumedHeadcount
  let tierWeight := calculateTierWeight gasRiskScore config
  let risk := calculateRisk M headcount tierWeight config
  let confidence := calculateConfidence contextPresent config
  let unauthorizedWorkers :=
    if contextPresent then calculateUnauthorizedWorkers workers gasRiskScore permitCoverage config
    else []
  let justification := buildJustification workers contextPresent gasRiskScore tierWeight
    permitCoverage unauthorizedWorkers config
  pure { agentName := "worker_exposure", risk, confidence, justification,
         computedAt := input.simTime }

/-- `WorkerExposureAgent()`. -/
def agent {Uuid : Type} (M : Math R) : Agent R Uuid :=
  ⟨"worker_exposure", evaluate M (WorkerExposureConfig.default M)⟩

end WorkerExposure
