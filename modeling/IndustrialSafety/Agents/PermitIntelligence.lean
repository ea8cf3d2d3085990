import IndustrialSafety.Agents.Base
import Mathlib.Algebra.BigOperators.Group.Multiset.Basic

/-!
# Permit Intelligence

`src/domain/agents/permit_intelligence.py`: every open permit of the zone is compared with its
baseline and checked against the adjacent zones' permits; the agent recommends a status for each,
never less severe than the current one, and reports the risk of the worst recommendation.
-/

namespace PermitIntelligence

open Py

variable {R Uuid : Type} [Field R] [LinearOrder R]

structure PermitReasoningConfig (R : Type) where
  algorithmName : String
  algorithmVersion : Int
  policyVersion : Int
  riskDeltaThreshold : R
  incompatiblePermitPairs : Finset (Finset String)
  adjacentZoneElevatedThreshold : R
  statusSeverityOrder : List PermitStatus
  severityOnBaselineBreach : PermitStatus
  severityOnSimopsConflict : PermitStatus
  severityOnStaleFeed : PermitStatus
  riskByStatus : PermitStatus → Option R
  missingAdjacentDataConfidence : R

/-- `_default_risk_by_status`. -/
def defaultRiskByStatus : PermitStatus → Option R
  | .active => some 0
  | .flagged => some 65
  | .suspendRecommended => some 90
  | .closed => none

def PermitReasoningConfig.default : PermitReasoningConfig R where
  algorithmName := "permit_reasoning"
  algorithmVersion := 1
  policyVersion := 1
  riskDeltaThreshold := 20
  incompatiblePermitPairs := {{"hot_work", "confined_space"}}
  adjacentZoneElevatedThreshold := 65
  statusSeverityOrder := [.active, .flagged, .suspendRecommended]
  severityOnBaselineBreach := .flagged
  severityOnSimopsConflict := .suspendRecommended
  severityOnStaleFeed := .flagged
  riskByStatus := defaultRiskByStatus
  missingAdjacentDataConfidence := 0.1

structure BaselineDeltaAssessment (R : Type) where
  baselineGasRisk : R
  liveGasRisk : R
  delta : R
  threshold : R
  exceeded : Bool

structure SimopsConflict (R Uuid : Type) where
  adjacentZoneId : Uuid
  permitType : String
  conflictingPermitType : String
  adjacentGasRisk : R

structure PermitDecision (R Uuid : Type) where
  permitIdentifier : String
  previousStatus : PermitStatus
  recommendedStatus : PermitStatus
  baselineAssessment : Option (BaselineDeltaAssessment R)
  simopsConflicts : Multiset (SimopsConflict R Uuid)

def assessBaselineDelta (baseline : PermitBaselineSnapshot R) (liveGasRisk : R)
    (config : PermitReasoningConfig R) : BaselineDeltaAssessment R where
  baselineGasRisk := baseline.gasRiskAtIssuance
  liveGasRisk := liveGasRisk
  delta := liveGasRisk - baseline.gasRiskAtIssuance
  threshold := config.riskDeltaThreshold
  exceeded := config.riskDeltaThreshold < liveGasRisk - baseline.gasRiskAtIssuance

def isIncompatiblePair (typeA typeB : String) (config : PermitReasoningConfig R) : Bool :=
  ({typeA, typeB} : Finset String) ∈ config.incompatiblePermitPairs

/-- The conflicts with one adjacent zone. A frozenset has no iteration order, hence the multiset. -/
def zoneConflicts (permitType : String) (config : PermitReasoningConfig R)
    (adjacent : AdjacentZoneStatus R Uuid) : Multiset (SimopsConflict R Uuid) :=
  if adjacent.gasRiskScore < config.adjacentZoneElevatedThreshold then 0
  else
    (adjacent.activePermitTypes.filter (isIncompatiblePair permitType · config)).val.map
      fun other => ⟨adjacent.zoneId, permitType, other, adjacent.gasRiskScore⟩

def detectSimopsConflicts (permitType : String) (adjacentZones : List (AdjacentZoneStatus R Uuid))
    (config : PermitReasoningConfig R) : Multiset (SimopsConflict R Uuid) :=
  (adjacentZones.map (zoneConflicts permitType config)).sum

/-- `order.index(status)`. -/
def severity (config : PermitReasoningConfig R) (status : PermitStatus) : Result Nat :=
  match config.statusSeverityOrder.idxOf? status with
  | some i => pure i
  | none => throw (.valueError "tuple.index(x): x not in tuple")

/-- `max(best :: candidates, key=order.index)`: the first of the most severe ones. -/
def mostSevere (config : PermitReasoningConfig R) : PermitStatus → List PermitStatus →
    Result PermitStatus
  | best, [] => do
    let _ ← severity config best
    pure best
  | best, c :: cs => do
    let i ← severity config best
    let j ← severity config c
    mostSevere config (if i < j then c else best) cs

def determineRecommendedStatus (previousStatus : PermitStatus)
    (baselineAssessment : Option (BaselineDeltaAssessment R))
    (simopsConflicts : Multiset (SimopsConflict R Uuid)) (config : PermitReasoningConfig R) :
    Result PermitStatus :=
  mostSevere config previousStatus <|
    match baselineAssessment with
    | none => [config.severityOnStaleFeed]
    | some a =>
      (if a.exceeded then [config.severityOnBaselineBreach] else []) ++
        (if simopsConflicts.card ≠ 0 then [config.severityOnSimopsConflict] else [])

def calculateConfidence (gasRiskConfidence : R) (adjacentZonesProvided : Bool)
    (config : PermitReasoningConfig R) : R :=
  min gasRiskConfidence (if adjacentZonesProvided then 1 else config.missingAdjacentDataConfidence)

def calculateRisk (recommendedStatus : PermitStatus) (config : PermitReasoningConfig R) :
    Result R :=
  match config.riskByStatus recommendedStatus with
  | some r => pure r
  | none => throw (.keyError recommendedStatus.str)

def buildPermitDecision (permit : PermitRecord R Uuid) (recommendedStatus : PermitStatus)
    (baselineAssessment : Option (BaselineDeltaAssessment R))
    (simopsConflicts : Multiset (SimopsConflict R Uuid)) : PermitDecision R Uuid :=
  ⟨permit.identifier, permit.status, recommendedStatus, baselineAssessment, simopsConflicts⟩

/-- The body of the loop over the open permits. -/
def decidePermit (feedStale : Bool) (liveGasRisk : R) (adjacentZones : List (AdjacentZoneStatus R Uuid))
    (config : PermitReasoningConfig R) (permit : PermitRecord R Uuid) :
    Result (PermitDecision R Uuid) := do
  if feedStale then
    let noConflicts : Multiset (SimopsConflict R Uuid) := 0
    let recommended ← determineRecommendedStatus permit.status none noConflicts config
    pure (buildPermitDecision permit recommended none noConflicts)
  else
    let baselineAssessment := assessBaselineDelta permit.baseline liveGasRisk config
    let simopsConflicts := detectSimopsConflicts permit.permitType adjacentZones config
    let recommended ← determineRecommendedStatus permit.status (some baselineAssessment)
      simopsConflicts config
    pure (buildPermitDecision permit recommended (some baselineAssessment) simopsConflicts)

def PermitDecision.evidence (d : PermitDecision R Uuid) : DecisionEvidence R where
  permitIdentifier := d.permitIdentifier
  previousStatus := d.previousStatus
  recommendedStatus := d.recommendedStatus
  baselineDelta := d.baselineAssessment.map BaselineDeltaAssessment.delta
  simopsConflictCount := d.simopsConflicts.card

def buildJustification (decisions : List (PermitDecision R Uuid)) (feedStale : Bool)
    (gasRiskConfidence : R) (adjacentZonesProvided : Bool) (config : PermitReasoningConfig R) :
    Justification R :=
  let rule :=
    if feedStale then "fail_open_never"
    else if decisions.isEmpty then "no_open_permits"
    else if decisions.any fun d => d.recommendedStatus ≠ d.previousStatus then
      "permit_status_escalated"
    else "permits_within_policy"
  ⟨[rule], .permitIntelligence config.algorithmName config.algorithmVersion config.policyVersion
    feedStale gasRiskConfidence adjacentZonesProvided (decisions.map PermitDecision.evidence)⟩

/-- `PermitIntelligenceAgent.evaluate`. -/
def evaluate (config : PermitReasoningConfig R) (input : AgentInput R Uuid) :
    Result (AgentResult R) := do
  let gasRisk ← input.upstreamResults.get "gas_risk"
  let permits := input.context.permits.getD []
  let feedStale := input.context.permitFeedStale.getD false
  let adjacentZones := input.context.adjacentZones
  let openPermits := permits.filter (·.status ≠ .closed)
  let decisions ←
    openPermits.mapM (decidePermit feedStale gasRisk.risk (adjacentZones.getD []) config)
  let confidence := calculateConfidence gasRisk.confidence adjacentZones.isSome config
  let risks ← decisions.mapM fun d => calculateRisk d.recommendedStatus config
  let justification := buildJustification decisions feedStale gasRisk.confidence
    adjacentZones.isSome config
  pure { agentName := "permit_intelligence", risk := risks.max?.getD 0, confidence, justification,
         computedAt := input.simTime }

/-- `PermitIntelligenceAgent()`. -/
def agent : Agent R Uuid := ⟨"permit_intelligence", evaluate PermitReasoningConfig.default⟩

end PermitIntelligence
