import IndustrialSafety.Agents.GasRisk
import IndustrialSafety.Db.Repositories
import IndustrialSafety.Simulation.Generator

/-!
# The simulation runner

`src/services/simulation_runner.py`: the readings and permits of a scenario persisted in one
transaction. The two loops are shared with the scenario builder, which reads a key as a UUID's text
(`resolve := T.uuid`) where the runner hashes it (`resolve := T.resolveId`).
-/

namespace SimulationRunner

open Py Simulation

variable {R Uuid : Type} [Field R] [LinearOrder R] [DecidableEq Uuid]

/-! ## References -/

def validateSensorReference (T : Text R Uuid) (db : Db R Uuid) (event : SensorEvent R) :
    Result Unit := do
  let name := strRepr event.name
  let zoneId := T.resolveId event.zoneKey
  if (ZoneRepository.get db zoneId).isNone then
    throw (.scenarioValidationError s!"event {name}: unknown zone {strRepr event.zoneKey}")
  if (SensorRepository.getByZoneAndGas db zoneId event.gasType).isNone then
    throw (.scenarioValidationError (s!"event {name}: no sensor for " ++
      s!"zone={strRepr event.zoneKey} gas_type={strRepr event.gasType}"))

def validatePermitReference (T : Text R Uuid) (db : Db R Uuid) (event : PermitEvent R) :
    Result Unit := do
  let name := strRepr event.name
  if (ZoneRepository.get db (T.resolveId event.zoneKey)).isNone then
    throw (.scenarioValidationError s!"event {name}: unknown zone {strRepr event.zoneKey}")
  if (WorkerRepository.get db (T.resolveId event.authorizingOfficerKey)).isNone then
    throw (.scenarioValidationError (s!"event {name}: unknown authorizing officer " ++
      strRepr event.authorizingOfficerKey))

def validateReferences (T : Text R Uuid) (db : Db R Uuid) (scenario : Scenario R) :
    Result Unit := do
  scenario.sensorEvents.forM (validateSensorReference T db)
  scenario.permitEvents.forM (validatePermitReference T db)

/-! ## The baseline snapshot -/

/-- `_resolve_zone_gas_type`. -/
def resolveZoneGasType (scenario : Scenario R) (zoneKey : String) : Option String :=
  (scenario.sensorEvents.find? (·.zoneKey = zoneKey)).map SensorEvent.gasType

/-- The readings of a zone and gas up to `issuedAt`, oldest first. -/
def zoneReadings (readings : List (GeneratedReading R Uuid)) (zoneKey gasType : String)
    (issuedAt : DateTime) : List (GasReading R) :=
  ((readings.filter fun r => r.zoneKey = zoneKey ∧ r.gasType = gasType ∧
    r.timestamp.instant ≤ issuedAt.instant).map fun r => ⟨r.timestamp.instant, r.value⟩).insertionSort
      fun a b => a.timestamp ≤ b.timestamp

/-- `_compute_baseline_snapshot`. -/
def computeBaselineSnapshot (M : Math R) (T : Text R Uuid) (db : Db R Uuid) (zoneKey : String)
    (issuedAt : DateTime) (scenario : Scenario R) (readings : List (GeneratedReading R Uuid))
    (zoneId : Uuid) : Result (BaselineSnapshot R) := do
  let config := GasRisk.GasRiskConfig.default M
  let elevatedFloor := ((ZoneRepository.get db zoneId).bind Zone.elevatedFloorOverride).getD
    config.defaultElevatedFloor
  let (gasRiskAtIssuance, confidenceAtIssuance) ← match resolveZoneGasType scenario zoneKey with
    | none => pure (elevatedFloor, config.missingDataConfidence)
    | some gasType =>
      match SensorRepository.getByZoneAndGas db zoneId gasType with
      | none => throw .assertionError
      | some sensor => do
        let zoneReadings := zoneReadings readings zoneKey gasType issuedAt
        let risk ← GasRisk.calculateRisk M zoneReadings sensor.alarmThreshold elevatedFloor
          issuedAt.instant config
        -- `calculate_confidence` subtracts the calibration's time from the permit's
        if T.naive scenario.startTime ∧ zoneReadings ≠ [] ∧ sensor.lastCalibratedAt.isSome then
          throw (.typeError "can't subtract offset-naive and offset-aware datetimes")
        pure (risk, GasRisk.calculateConfidence M zoneReadings sensor.lastCalibratedAt
          issuedAt.instant config)
  pure {
    schemaVersion := some 1
    algorithmVersion := some config.formulaVersion
    gasRiskAtIssuance := some gasRiskAtIssuance
    confidenceAtIssuance := some confidenceAtIssuance
    capturedAt := some (T.isoformat issuedAt) }

/-! ## Persistence -/

def persistReading (resolve : String → Result Uuid) (reading : GeneratedReading R Uuid) :
    Session R Uuid Unit := do
  let zoneId ← resolve reading.zoneKey
  let db ← get
  match SensorRepository.getByZoneAndGas db zoneId reading.gasType with
  | none => throw .assertionError
  | some sensor =>
    let _ ← SensorReadingRepository.create {
      readingId := reading.readingId
      sensorId := sensor.sensorId
      zoneId
      gasType := reading.gasType
      value := reading.value
      unit := some "ppm"
      timestamp := reading.timestamp.instant }

def persistPermit (M : Math R) (T : Text R Uuid) (resolve : String → Result Uuid)
    (scenario : Scenario R) (readings : List (GeneratedReading R Uuid))
    (permit : GeneratedPermit Uuid) : Session R Uuid Unit := do
  let zoneId ← resolve permit.zoneKey
  let db ← get
  let baselineSnapshot ←
    computeBaselineSnapshot M T db permit.zoneKey permit.issuedAt scenario readings zoneId
  let authorizingOfficerId ← resolve permit.authorizingOfficerKey
  let _ ← PermitRepository.create {
    permitId := permit.permitId
    permitType := permit.permitType
    zoneId
    issuedAt := permit.issuedAt.instant
    expiresAt := permit.expiresAt.instant
    authorizingOfficerId
    baselineSnapshot }

variable [FloorRing R]

/-- The two loops. -/
def persistScenario (M : Math R) (T : Text R Uuid) (resolve : String → Result Uuid)
    (scenario : Scenario R) : Session R Uuid (List (GeneratedReading R Uuid)) := do
  let readings ← generateSensorReadings M T scenario
  let _ ← readings.mapM (persistReading resolve)
  let permits ← generatePermits T scenario
  let _ ← permits.mapM (persistPermit M T resolve scenario readings)
  pure readings

def runScenario (M : Math R) (T : Text R Uuid) (scenario : Scenario R) :
    Service Exc (Db R Uuid) Unit := do
  validateStructure M scenario
  Service.transaction do
    let db ← get
    validateReferences T db scenario
    let _ ← persistScenario M T (fun key => pure (T.resolveId key)) scenario

end SimulationRunner
