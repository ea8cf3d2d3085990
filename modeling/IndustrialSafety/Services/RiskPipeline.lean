import IndustrialSafety.Services.ContextBuilders
import IndustrialSafety.Services.Engine

/-!
# The risk pipeline

`src/services/risk_pipeline.py`: `run_zone_tick` evaluates one zone and persists the assessment in one
transaction, then asks the comparator in a second one.
-/

namespace RiskPipeline

open Py Scheduler RiskFormula Tiering

variable {R Uuid : Type} [Field R] [LinearOrder R] [DecidableEq Uuid]

structure RiskPipelineResult (R Uuid : Type) where
  assessment : RiskAssessment R Uuid
  cache : AgentCache R
  tierState : TierState R
  counterfactual : Counterfactual.CounterfactualResult R Uuid

/-- `_build_context_builders`. -/
def buildContextBuilders (T : Text R Uuid) (db : Db R Uuid) (gasType : String) :
    ContextBuilders R Uuid
  | "gas_risk" => some (ContextBuilders.makeGasRiskContextBuilder T db gasType
      ContextBuilders.defaultReadingWindow)
  | "equipment_status" => some (ContextBuilders.makeEquipmentStatusContextBuilder T db)
  | "permit_intelligence" =>
    some (ContextBuilders.makePermitIntelligenceContextBuilder T db false)
  | "worker_exposure" => some (ContextBuilders.makeWorkerExposureContextBuilder T db)
  | _ => none

/-- `_derive_assessment_id`. -/
def deriveAssessmentId (T : Text R Uuid) (zoneId : Uuid) (simTime : DateTime) : Uuid :=
  T.resolveId s!"risk_assessment:{T.uuidStr zoneId}:{T.isoformat simTime}"

/-- What the first transaction of a tick computes from the database. -/
structure Evaluation (R Uuid : Type) where
  agentResults : Results R
  cache : AgentCache R
  tierState : TierState R
  assessment : RiskAssessment R Uuid

variable [IsStrictOrderedRing R]

/-- The reads and the calculation of `run_zone_tick`. -/
def evaluateTick (M : Math R) (T : Text R Uuid) (db : Db R Uuid) (zoneId : Uuid) (gasType : String)
    (simTime : DateTime) (tickId : Nat) (previousCache : AgentCache R)
    (previousTierState : TierState R) : Result (Evaluation R Uuid) := do
  let (agentResults, cache) ← runTick M (executionPlan M) zoneId simTime.instant tickId
    (buildContextBuilders T db gasType) previousCache (schedulerConfig M)
  let fusionResult ← fuse zoneId simTime.instant agentResults fusionConfig
  let tierState := transition previousTierState fusionResult tieringConfig
  let justification ← Justification.buildRiskAssessmentJustification agentResults fusionResult
    previousTierState.currentTier tierState.currentTier
  pure {
    agentResults, cache, tierState
    assessment := {
      assessmentId := deriveAssessmentId T zoneId simTime
      zoneId
      timestamp := simTime.instant
      compoundRiskScore := fusionResult.compoundRiskScore
      confidence := fusionResult.confidence
      tier := tierState.currentTier
      justification } }

def runZoneTick (M : Math R) (T : Text R Uuid) (zoneId : Uuid) (gasType : String)
    (simTime : DateTime) (tickId : Nat) (previousCache : AgentCache R)
    (previousTierState : TierState R) : Service Exc (Db R Uuid) (RiskPipelineResult R Uuid) := do
  let evaluation ← Service.transaction do
    let db ← get
    let evaluation ←
      evaluateTick M T db zoneId gasType simTime tickId previousCache previousTierState
    let _ ← RiskAssessmentRepository.create evaluation.assessment
    pure evaluation
  -- the assessment is committed: a failure of the comparator does not roll it back
  let counterfactualReadings ← Service.transaction do
    let db ← get
    pure (ContextBuilders.buildCounterfactualReadings T db zoneId [gasType] none)
  let counterfactual ←
    Counterfactual.evaluate T zoneId simTime.instant counterfactualReadings
  pure ⟨evaluation.assessment, evaluation.cache, evaluation.tierState, counterfactual⟩

end RiskPipeline
