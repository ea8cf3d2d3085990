import IndustrialSafety.Lib.Group
import IndustrialSafety.Services.RiskPipeline
import IndustrialSafety.Services.SimulationRunner

/-!
# The scenario builder

`src/services/scenario_builder.py`: a scenario validated against the database, persisted, and replayed
tick by tick, one `(zone, gas type)` after the other.
-/

namespace ScenarioBuilder

open Py Simulation SimulationRunner RiskPipeline Scheduler Tiering

variable {R Uuid : Type} [Field R] [LinearOrder R] [DecidableEq Uuid]

/-! ## Specs -/

structure SensorEventSpec (R Uuid : Type) where
  name : String
  zoneId : Uuid
  gasType : String
  simTime : R
  durationMinutes : R
  curve : String
  params : Params R
  sampleIntervalMinutes : R

structure PermitEventSpec (R Uuid : Type) where
  name : String
  zoneId : Uuid
  simTime : R
  permitType : String
  authorizingOfficerId : Uuid
  durationMinutes : R

omit [Field R] [LinearOrder R] [DecidableEq Uuid] in
def buildScenario (T : Text R Uuid) (seed : Int) (startTime : DateTime)
    (sensorEvents : List (SensorEventSpec R Uuid)) (permitEvents : List (PermitEventSpec R Uuid)) :
    Scenario R where
  seed := seed
  startTime := T.isoformat startTime
  sensorEvents := sensorEvents.map fun e => {
    name := e.name
    zoneKey := T.uuidStr e.zoneId
    gasType := e.gasType
    simTime := e.simTime
    durationMinutes := e.durationMinutes
    curve := e.curve
    params := e.params
    sampleIntervalMinutes := e.sampleIntervalMinutes }
  permitEvents := permitEvents.map fun e => {
    name := e.name
    zoneKey := T.uuidStr e.zoneId
    simTime := e.simTime
    permitType := e.permitType
    authorizingOfficerKey := T.uuidStr e.authorizingOfficerId
    durationMinutes := e.durationMinutes }

/-! ## Validation -/

def sensorEventErrors (T : Text R Uuid) (db : Db R Uuid) (event : SensorEvent R) : List String :=
  let name := strRepr event.name
  match T.uuidOfStr event.zoneKey with
  | none => [s!"event {name}: invalid zone id {strRepr event.zoneKey}"]
  | some zoneId =>
    if (ZoneRepository.get db zoneId).isNone then
      [s!"event {name}: unknown zone {strRepr event.zoneKey}"]
    else if (SensorRepository.getByZoneAndGas db zoneId event.gasType).isNone then
      [s!"event {name}: no sensor for zone={strRepr event.zoneKey} " ++
        s!"gas_type={strRepr event.gasType}"]
    else []

def permitZoneErrors (T : Text R Uuid) (db : Db R Uuid) (event : PermitEvent R) : List String :=
  let name := strRepr event.name
  match T.uuidOfStr event.zoneKey with
  | none => [s!"event {name}: invalid zone id {strRepr event.zoneKey}"]
  | some zoneId =>
    if (ZoneRepository.get db zoneId).isNone then
      [s!"event {name}: unknown zone {strRepr event.zoneKey}"]
    else []

def permitOfficerErrors (T : Text R Uuid) (db : Db R Uuid) (event : PermitEvent R) :
    List String :=
  let name := strRepr event.name
  let key := strRepr event.authorizingOfficerKey
  match T.uuidOfStr event.authorizingOfficerKey with
  | none => [s!"event {name}: invalid worker id {key}"]
  | some officerId =>
    match WorkerRepository.get db officerId with
    | none => [s!"event {name}: unknown authorizing officer {key}"]
    | some officer =>
      if officer.currentZoneId.isNone then
        [s!"event {name}: authorizing officer {key} is not currently assigned to any zone"]
      else []

def negativeConcentration (T : Text R Uuid) (reading : GeneratedReading R Uuid) : String :=
  s!"zone {strRepr reading.zoneKey} gas_type={strRepr reading.gasType}: produces a negative " ++
    s!"concentration ({T.floatStr3 reading.value}) at {T.isoformat reading.timestamp}"

variable [FloorRing R]

/-- Every error of a scenario; a structural one ends the validation. -/
def validateBuilderScenario (M : Math R) (T : Text R Uuid) (db : Db R Uuid)
    (scenario : Scenario R) : Result (List String) :=
  match validateStructure M scenario with
  | .error (.scenarioValidationError msg) => pure [msg]
  | .error e => throw e
  | .ok () => do
    let errors := scenario.sensorEvents.flatMap (sensorEventErrors T db) ++
      scenario.permitEvents.flatMap fun event =>
        permitZoneErrors T db event ++ permitOfficerErrors T db event
    if errors ≠ [] then pure errors
    else
      let readings ← generateSensorReadings M T scenario
      match readings.find? fun reading => reading.value < 0 with
      | some reading => pure [negativeConcentration T reading]
      | none => pure []

/-! ## Execution -/

structure ZoneExecutionResult (R Uuid : Type) where
  zoneId : Uuid
  tickCount : Nat
  finalTier : Tier
  finalScore : R
  assessmentIds : List Uuid

structure ScenarioExecutionResult (R Uuid : Type) where
  errors : List String
  startTime : Option Instant
  endTime : Option Instant
  zoneResults : List (ZoneExecutionResult R Uuid)

/-- The ticks of one `(zone, gas type)`. -/
structure ZoneRun (R Uuid : Type) where
  zoneId : Uuid
  timestamps : List DateTime
  results : List (RiskPipelineResult R Uuid)

/-- The `ZoneExecutionResult` of the ticks; none without a tick. -/
def ZoneRun.executionResult (run : ZoneRun R Uuid) : Option (ZoneExecutionResult R Uuid) :=
  run.results.getLast?.map fun result => {
    zoneId := run.zoneId
    tickCount := run.timestamps.length
    finalTier := result.assessment.tier
    finalScore := result.assessment.compoundRiskScore
    assessmentIds := run.results.map fun r => r.assessment.assessmentId }

variable [IsStrictOrderedRing R]

/-- The loop over the sorted timestamps of one `(zone, gas type)`. -/
def runTicks (M : Math R) (T : Text R Uuid) (zoneId : Uuid) (gasType : String) :
    List DateTime → Nat → AgentCache R → TierState R →
      Service Exc (Db R Uuid) (List (RiskPipelineResult R Uuid))
  | [], _, _, _ => pure []
  | simTime :: timestamps, tickId, cache, tierState => do
    let result ← runZoneTick M T zoneId gasType simTime tickId cache tierState
    let results ← runTicks M T zoneId gasType timestamps (tickId + 1) result.cache result.tierState
    pure (result :: results)

def runZone (M : Math R) (T : Text R Uuid) (group : (Uuid × String) × List DateTime) :
    Service Exc (Db R Uuid) (ZoneRun R Uuid) := do
  let ((zoneId, gasType), timestamps) := group
  let timestamps := timestamps.insertionSort fun a b => a.instant ≤ b.instant
  let results ← runTicks M T zoneId gasType timestamps 0 {} TierState.initial
  pure ⟨zoneId, timestamps, results⟩

/-- What is grouped: a reading's zone, gas type and time. The first tick of a scenario whose start has no
offset fails: `gas_risk` subtracts the time of a stored reading, which has one. -/
def zonePairs (T : Text R Uuid) (startTime : String) (readings : List (GeneratedReading R Uuid)) :
    Result (List ((Uuid × String) × DateTime)) := do
  let pairs ← readings.mapM fun reading => do
    let zoneId ← T.uuid reading.zoneKey
    pure ((zoneId, reading.gasType), reading.timestamp)
  if T.naive startTime ∧ pairs ≠ [] then
    throw (.noLastKnownResultError
      "gas_risk failed on its first tick; no last-known result to fall back on")
  pure pairs

/-- The tick loop: the readings grouped by `(zone, gas type)`. -/
def runZones (M : Math R) (T : Text R Uuid) (startTime : String)
    (readings : List (GeneratedReading R Uuid)) :
    Service Exc (Db R Uuid) (List (ZoneRun R Uuid)) := do
  let pairs ← zonePairs T startTime readings
  (Group.group pairs).mapM (runZone M T)

/-- The transaction before the ticks: the errors, or the readings it persisted. -/
def persistBuilderScenario (M : Math R) (T : Text R Uuid) (scenario : Scenario R) :
    Session R Uuid (List String × List (GeneratedReading R Uuid)) := do
  let db ← get
  let errors ← validateBuilderScenario M T db scenario
  if errors ≠ [] then pure (errors, [])
  else
    let readings ← persistScenario M T T.uuid scenario
    pure ([], readings)

/-- `execute_builder_scenario` with the ticks it made. -/
def executeRuns (M : Math R) (T : Text R Uuid) (scenario : Scenario R) :
    Service Exc (Db R Uuid) (List String × List (ZoneRun R Uuid)) := do
  let (errors, readings) ← Service.transaction (persistBuilderScenario M T scenario)
  if errors ≠ [] then pure (errors, [])
  else
    let runs ← runZones M T scenario.startTime readings
    pure ([], runs)

def executeBuilderScenario (M : Math R) (T : Text R Uuid) (scenario : Scenario R) :
    Service Exc (Db R Uuid) (ScenarioExecutionResult R Uuid) := do
  let (errors, runs) ← executeRuns M T scenario
  let allTimestamps := runs.flatMap fun run => run.timestamps.map DateTime.instant
  pure {
    errors
    startTime := allTimestamps.min?
    endTime := allTimestamps.max?
    zoneResults := runs.filterMap ZoneRun.executionResult }

end ScenarioBuilder
