import IndustrialSafety.Db.Repositories
import IndustrialSafety.Orchestrator.Counterfactual
import IndustrialSafety.Orchestrator.Scheduler

/-!
# The context builders

`src/services/context_builders.py`: each agent's input assembled from the database. A builder reads
the database it was made with; a tick does not write between its reads.
-/

namespace ContextBuilders

open Py Scheduler

variable {R Uuid : Type} [DecidableEq Uuid]

/-- `DEFAULT_READING_WINDOW`. -/
def defaultReadingWindow : Nat := 20

/-! ## Gas Risk -/

def makeGasRiskContextBuilder (T : Text R Uuid) (db : Db R Uuid) (gasType : String)
    (readingWindow : Nat) : ContextBuilder R Uuid := fun zoneId simTime tickId resultsSoFar => do
  match SensorRepository.getByZoneAndGas db zoneId gasType with
  | none =>
    throw (.valueError s!"no sensor for zone={T.uuidStr zoneId} gas_type={strRepr gasType}")
  | some sensor =>
    let rows := SensorReadingRepository.recent db zoneId gasType simTime readingWindow
    let context := {
      readings := some (rows.map fun r => ⟨r.timestamp, r.value⟩)
      alarmThreshold := some sensor.alarmThreshold
      lastCalibratedAt := sensor.lastCalibratedAt
      elevatedFloorOverride := (ZoneRepository.get db zoneId).bind Zone.elevatedFloorOverride }
    pure { zoneId, simTime, tickId, upstreamResults := resultsSoFar, context }

/-! ## Equipment Status -/

/-- `_to_equipment_record`. -/
def toEquipmentRecord (T : Text R Uuid) (row : Equipment Uuid) : EquipmentRecord where
  identifier := T.uuidStr row.equipmentId
  equipmentType := row.equipmentType
  isolationStatus := row.isolationStatus
  maintenanceFlag := row.maintenanceFlag
  lotoConfirmed := row.lotoConfirmed

def makeEquipmentStatusContextBuilder (T : Text R Uuid) (db : Db R Uuid) :
    ContextBuilder R Uuid := fun zoneId simTime tickId resultsSoFar =>
  let rows := EquipmentRepository.listByZone db zoneId
  let context := { equipment := some (rows.map (toEquipmentRecord T)) }
  pure { zoneId, simTime, tickId, upstreamResults := resultsSoFar, context }

/-! ## Worker Exposure -/

/-- `_to_worker_presence`. -/
def toWorkerPresence (T : Text R Uuid) (row : Worker Uuid) : WorkerPresence :=
  ⟨T.uuidStr row.workerId, row.role⟩

/-- `_derive_permit_coverage`: the zone has an open permit iff Permit Intelligence decided on one. -/
def derivePermitCoverage (permitIntelligenceResult : Option (AgentResult R)) : PermitCoverage :=
  match permitIntelligenceResult with
  | none => ⟨false⟩
  | some r => ⟨!r.justification.evidence.decisions.isEmpty⟩

def makeWorkerExposureContextBuilder (T : Text R Uuid) (db : Db R Uuid) :
    ContextBuilder R Uuid := fun zoneId simTime tickId resultsSoFar =>
  let rows := WorkerRepository.listByCurrentZone db zoneId
  let context := {
    workersPresent := some (rows.map (toWorkerPresence T))
    permitCoverage := some (derivePermitCoverage (resultsSoFar "permit_intelligence")) }
  pure { zoneId, simTime, tickId, upstreamResults := resultsSoFar, context }

/-! ## Permit Intelligence -/

/-- `raw[key]`, a missing key as `_parse_baseline_snapshot` reports it. -/
def requireKey {α : Type} (raw : Option α) (key : String) : Result α :=
  match raw with
  | some x => pure x
  | none => throw (.valueError s!"malformed baseline_snapshot, missing key: {strRepr key}")

/-- `_parse_baseline_snapshot`. -/
def parseBaselineSnapshot (T : Text R Uuid) (raw : BaselineSnapshot R) :
    Result (PermitBaselineSnapshot R) := do
  let schemaVersion ← requireKey raw.schemaVersion "schema_version"
  let algorithmVersion ← requireKey raw.algorithmVersion "algorithm_version"
  let gasRiskAtIssuance ← requireKey raw.gasRiskAtIssuance "gas_risk_at_issuance"
  let confidenceAtIssuance ← requireKey raw.confidenceAtIssuance "confidence_at_issuance"
  let capturedAt ← requireKey raw.capturedAt "captured_at"
  let capturedAt ← T.datetime capturedAt
  pure { schemaVersion, algorithmVersion, gasRiskAtIssuance, confidenceAtIssuance, capturedAt }

/-- `_to_permit_record`. -/
def toPermitRecord (T : Text R Uuid) (row : Permit R Uuid) : Result (PermitRecord R Uuid) := do
  let baseline ← parseBaselineSnapshot T row.baselineSnapshot
  pure { identifier := T.uuidStr row.permitId, permitType := row.permitType, zoneId := row.zoneId,
         status := row.status, baseline }

/-- `_extract_gas_risk_score`. -/
def extractGasRiskScore (justification : Justification.RiskAssessmentJustification R) : Option R :=
  (justification.agentContributions.find? (·.agentName = "gas_risk")).map
    Justification.Contribution.risk

/-- One adjacent zone, from its latest persisted assessment; a zone without one is left out. -/
def adjacentZoneStatus (db : Db R Uuid) (adjacentZoneId : Uuid) :
    Option (AdjacentZoneStatus R Uuid) := do
  let latestAssessment ← RiskAssessmentRepository.latestByZone db adjacentZoneId
  let gasRiskScore ← extractGasRiskScore latestAssessment.justification
  let adjacentPermits := PermitRepository.listOpenByZone db adjacentZoneId
  pure ⟨adjacentZoneId, (adjacentPermits.map Permit.permitType).toFinset, gasRiskScore⟩

def makePermitIntelligenceContextBuilder (T : Text R Uuid) (db : Db R Uuid)
    (permitFeedStale : Bool) : ContextBuilder R Uuid := fun zoneId simTime tickId resultsSoFar => do
  let permits ← (PermitRepository.listOpenByZone db zoneId).mapM (toPermitRecord T)
  let adjacentZones :=
    (ZoneAdjacencyRepository.adjacentZoneIds db zoneId).filterMap (adjacentZoneStatus db)
  let context := {
    permits := some permits
    permitFeedStale := some permitFeedStale
    adjacentZones := some adjacentZones }
  pure { zoneId, simTime, tickId, upstreamResults := resultsSoFar, context }

/-! ## The comparator -/

/-- `build_counterfactual_readings`, as of a time or with the latest reading ever. -/
def buildCounterfactualReadings (T : Text R Uuid) (db : Db R Uuid) (zoneId : Uuid)
    (gasTypes : List String) (asOf : Option Instant) :
    List (Counterfactual.CounterfactualReading R) :=
  gasTypes.filterMap fun gasType => do
    let sensor ← SensorRepository.getByZoneAndGas db zoneId gasType
    let latest ← match asOf with
      | none => SensorReadingRepository.latest db zoneId gasType
      | some before => (SensorReadingRepository.recent db zoneId gasType before 1).head?
    pure ⟨T.uuidStr sensor.sensorId, latest.value, sensor.alarmThreshold⟩

end ContextBuilders
