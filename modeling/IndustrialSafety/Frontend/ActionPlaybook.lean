import IndustrialSafety.Frontend.Recommendations
import Mathlib.Data.List.Sort

/-!
# The action queue

`frontend/src/lib/actionPlaybook.ts`, with what it uses of `rootCause.ts` and `justification.ts`: the
recommendations with a priority, the playbook's metadata and the impact level of the tick. The display
names of the factors are left out.
-/

namespace Frontend

open KnowledgeGraph (Severity)

/-- `e.severity`. -/
def Entry.severity : Entry → Option Severity
  | .recommendation r => some r.severity
  | .inherited => none

/-! ## The justification -/

structure AgentContribution (R : Type) where
  risk : R
  confidence : R

/-- What the queue reads of a justification; `agentContributions` is listed as `Object.entries` does. -/
structure RiskJustification (R : Type) where
  rulesFired : List String
  agentContributions : List (String × AgentContribution R)

structure RankedFactor (R : Type) where
  agentName : String
  risk : R
  confidence : R

def rankContributingFactors {R : Type} [LinearOrder R]
    (justification : Option (RiskJustification R)) : List (RankedFactor R) :=
  match justification with
  | none => []
  | some justification =>
    (justification.agentContributions.map fun (agentName, contribution) =>
      ⟨agentName, contribution.risk, contribution.confidence⟩).insertionSort
        fun a b => b.risk ≤ a.risk

def hasInteractionBonus {R : Type} (justification : Option (RiskJustification R)) : Bool :=
  match justification with
  | none => false
  | some justification => justification.rulesFired.contains "interaction_bonus_applied"

/-! ## The playbook -/

inductive ImpactLevel
  | informational | low | moderate | high | veryHigh | critical
deriving DecidableEq, Repr

/-- The next level of `IMPACT_ORDER`, if there is one. -/
def escalate : ImpactLevel → ImpactLevel
  | .informational => .low
  | .low => .moderate
  | .moderate => .high
  | .high => .veryHigh
  | .veryHigh => .critical
  | .critical => .critical

structure ActionPlaybookEntry where
  eta : String
  dependsOn : List String
  requiredPersonnel : String
  requiredEquipment : Option String
  targetedFactor : String
  baseImpact : ImpactLevel
deriving DecidableEq, Repr

/-- `ACTION_PLAYBOOK`. -/
def actionPlaybook : List (String × ActionPlaybookEntry) := [
  ("tier_critical", {
    eta := "2 minutes"
    dependsOn := []
    requiredPersonnel := "Shift Supervisor, Safety Officer"
    requiredEquipment := none
    targetedFactor := "tier"
    baseImpact := .critical }),
  ("tier_elevated", {
    eta := "1 minute"
    dependsOn := []
    requiredPersonnel := "Control Room Operator"
    requiredEquipment := none
    targetedFactor := "tier"
    baseImpact := .high }),
  ("tier_watch", {
    eta := "immediate"
    dependsOn := []
    requiredPersonnel := "Control Room Operator"
    requiredEquipment := none
    targetedFactor := "tier"
    baseImpact := .low }),
  ("permit_status_escalated", {
    eta := "30 seconds"
    dependsOn := []
    requiredPersonnel := "Permit Authorizing Officer"
    requiredEquipment := none
    targetedFactor := "permit_intelligence"
    baseImpact := .high }),
  ("unauthorized_presence", {
    eta := "3 minutes"
    dependsOn := ["permit_status_escalated"]
    requiredPersonnel := "Safety Officer"
    requiredEquipment := none
    targetedFactor := "worker_exposure"
    baseImpact := .high }),
  ("interaction_bonus_applied", {
    eta := "1 minute"
    dependsOn := ["permit_status_escalated"]
    requiredPersonnel := "Shift Supervisor"
    requiredEquipment := none
    targetedFactor := "interaction_bonus"
    baseImpact := .veryHigh }),
  ("common_cause_grouped_degradation_count", {
    eta := "10 minutes"
    dependsOn := ["unauthorized_presence"]
    requiredPersonnel := "Maintenance Technician"
    requiredEquipment := some "Isolation tools"
    targetedFactor := "equipment_status"
    baseImpact := .moderate }),
  ("stale_data_fail_safe", {
    eta := "5 minutes"
    dependsOn := []
    requiredPersonnel := "Instrumentation Technician"
    requiredEquipment := some "Calibration kit"
    targetedFactor := "gas_risk"
    baseImpact := .informational }),
  ("missing_data_fail_safe", {
    eta := "5 minutes"
    dependsOn := []
    requiredPersonnel := "Instrumentation Technician"
    requiredEquipment := some "Calibration kit"
    targetedFactor := "gas_risk"
    baseImpact := .moderate }),
  ("missing_location_fail_safe", {
    eta := "5 minutes"
    dependsOn := []
    requiredPersonnel := "Safety Officer"
    requiredEquipment := none
    targetedFactor := "worker_exposure"
    baseImpact := .moderate }),
  ("missing_equipment_context", {
    eta := "5 minutes"
    dependsOn := ["common_cause_grouped_degradation_count"]
    requiredPersonnel := "Maintenance Technician"
    requiredEquipment := none
    targetedFactor := "equipment_status"
    baseImpact := .informational }),
  ("agent_unavailable_using_last_known", {
    eta := "5 minutes"
    dependsOn := []
    requiredPersonnel := "Control Room Operator"
    requiredEquipment := none
    targetedFactor := "tier"
    baseImpact := .informational })]

/-- `FALLBACK_ENTRY`. -/
def fallbackEntry : ActionPlaybookEntry where
  eta := "unspecified"
  dependsOn := []
  requiredPersonnel := "Shift Supervisor"
  requiredEquipment := none
  targetedFactor := "tier"
  baseImpact := .moderate

/-- `none` is a property of `Object.prototype`; an `undefined` id is the key `"undefined"`. -/
def getActionMetadata (recommendationId : Option String) : Option ActionPlaybookEntry :=
  match property actionPlaybook (recommendationId.getD "undefined") with
  | .own entry => some entry
  | .inherited => none
  | .undefined => some fallbackEntry

def computeImpactLevel {R : Type} [LinearOrder R] (entry : ActionPlaybookEntry)
    (justification : Option (RiskJustification R)) : ImpactLevel :=
  if !hasInteractionBonus justification then entry.baseImpact
  else if entry.targetedFactor = "interaction_bonus" then escalate entry.baseImpact
  else
    let topTwo := ((rankContributingFactors justification).take 2).map RankedFactor.agentName
    if entry.targetedFactor ∈ topTwo then escalate entry.baseImpact else entry.baseImpact

/-! ## The queue -/

/-- A recommendation with what the queue adds to it. -/
structure PrioritizedAction where
  recommendation : Entry
  priority : ℕ
  metadata : ActionPlaybookEntry
  impactLevel : ImpactLevel
  dependencyLabels : List String
deriving DecidableEq, Repr

/-- `none` is the `TypeError` of `metadata.dependsOn.filter`, where the metadata is inherited. -/
def buildActionQueue {R : Type} [LinearOrder R] (recommendations : List Entry)
    (justification : Option (RiskJustification R)) : Option (List PrioritizedAction) :=
  let presentIds := recommendations.map Entry.id
  recommendations.zipIdx.mapM fun (recommendation, index) => do
    let metadata ← getActionMetadata recommendation.id
    pure {
      recommendation
      priority := index + 1
      metadata
      impactLevel := computeImpactLevel metadata justification
      dependencyLabels := metadata.dependsOn.filter fun id => some id ∈ presentIds }

end Frontend
