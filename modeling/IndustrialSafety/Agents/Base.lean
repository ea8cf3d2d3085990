import IndustrialSafety.Agents.Records

/-!
# The agent contract

`src/domain/agents/base.py`. The untyped `context` mapping is a record with one optional field per
key any agent reads (`none`: the key is absent); the `evidence` mapping is an `Evidence`. Summaries
and other display text of a `Justification` are left out: nothing reads them.
-/

open Py

/-- One entry of the `decisions` list in Permit Intelligence's evidence. -/
structure DecisionEvidence (R : Type) where
  permitIdentifier : String
  previousStatus : PermitStatus
  recommendedStatus : PermitStatus
  baselineDelta : Option R
  simopsConflictCount : Nat

/-- `Justification.evidence`, by the code that writes it. -/
inductive Evidence (R : Type)
  | gasRisk (formulaVersion : Int) (alarmThreshold elevatedFloor : R) (readingCount : Nat)
      (timeToThresholdMinutes : Option R) (lastCalibratedAt : Option Instant)
      (current : Option (R × R × R))  -- value, fraction of the threshold, minutes since the reading
  | equipmentStatus (formulaVersion : Int) (equipmentCount distinctEquipmentTypes : Nat)
      (degradedProtectionLayerGroups : Finset String)
  | workerExposure (formulaVersion : Int) (algorithmName : String) (algorithmVersion : Int)
      (headcount : Nat) (gasRiskScore tierWeight : R) (zoneHasActivePermit : Bool)
      (unauthorizedWorkers : List WorkerPresence)
  | permitIntelligence (algorithmName : String) (algorithmVersion policyVersion : Int)
      (permitFeedStale : Bool) (gasRiskConfidenceUsed : R) (adjacentZonesProvided : Bool)
      (decisions : List (DecisionEvidence R))
  | lastKnown (originalComputedAt : Instant) (elapsedMinutes originalConfidence : R)

/-- `evidence.get("decisions", [])`. -/
def Evidence.decisions {R : Type} : Evidence R → List (DecisionEvidence R)
  | .permitIntelligence _ _ _ _ _ _ ds => ds
  | _ => []

structure Justification (R : Type) where
  rulesFired : List String
  evidence : Evidence R

structure AgentResult (R : Type) where
  agentName : String
  risk : R
  confidence : R
  justification : Justification R
  computedAt : Instant
  schemaVersion : Int := 1

/-- A mapping from agent names to results. -/
abbrev Results (R : Type) := String → Option (AgentResult R)

/-- `results[name]`. -/
def Results.get {R : Type} (results : Results R) (name : String) : Result (AgentResult R) :=
  match results name with
  | some r => pure r
  | none => throw (.keyError name)

/-- `AgentInput.context`. -/
structure AgentContext (R Uuid : Type) where
  readings : Option (List (GasReading R)) := none
  alarmThreshold : Option R := none
  lastCalibratedAt : Option Instant := none
  elevatedFloorOverride : Option R := none
  equipment : Option (List EquipmentRecord) := none
  workersPresent : Option (List WorkerPresence) := none
  permitCoverage : Option PermitCoverage := none
  permits : Option (List (PermitRecord R Uuid)) := none
  permitFeedStale : Option Bool := none
  adjacentZones : Option (List (AdjacentZoneStatus R Uuid)) := none

structure AgentInput (R Uuid : Type) where
  zoneId : Uuid
  simTime : Instant
  tickId : Nat
  upstreamResults : Results R := fun _ => none
  context : AgentContext R Uuid := {}

/-- The `Agent` protocol: `metadata.name` and `evaluate`. -/
structure Agent (R Uuid : Type) where
  name : String
  evaluate : AgentInput R Uuid → Result (AgentResult R)
