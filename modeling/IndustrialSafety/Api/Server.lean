import IndustrialSafety.Lib.Run
import IndustrialSafety.LiveIngestion.Connectors
import IndustrialSafety.Services.Runtime

/-!
# The API process

`src/api/routers/ingest.py`: the requests that ingest a reading, and `GET /ingest/status`. The session of a
request is one transaction (`get_db_session`); the counters live in the process, which no exception rolls
back. A request answers with the reading, with an `APIError`, or, when anything else is raised, with
`INTERNAL_ERROR`. Beside the requests the engine writes (`Runtime`).
-/

namespace Api

open Py LiveIngestion

structure APIError where
  statusCode : Nat
  code : String
  message : String

/-- What a request raises. -/
inductive Failure
  | apiError (error : APIError)
  | unexpected (exc : Exc)

structure IngestReadingRequest (R : Type) where
  sensorId : String
  value : R
  unit : String
  timestamp : DateTime
  qualityFlag : String := "ok"

structure MockPollRequest where
  zoneId : String
  gasType : String
  timestamp : DateTime

/-- `_INGEST_COUNTS`. -/
structure IngestCounts where
  rest : Nat := 0
  mqtt : Nat := 0
  opcua : Nat := 0

structure ConnectorStatus where
  name : String
  protocol : String
  mode : String
  description : String
  readingsIngestedThisProcess : Nat

def getConnectorStatus (counts : IngestCounts) : List ConnectorStatus := [
  { name := "CSV Watcher"
    protocol := "CSV"
    mode := "implemented"
    description := "Real, functional - ingests sensor readings from a CSV file. " ++
      "Invoked as a local script/process (src/live_ingestion/csv_watcher.py), not " ++
      "exposed over HTTP (accepting a server-side file path from a request would be " ++
      "a path-traversal risk in a real deployment)."
    readingsIngestedThisProcess := 0 },
  { name := "REST API"
    protocol := "HTTP"
    mode := "implemented"
    description := "Real, functional - POST /ingest/reading."
    readingsIngestedThisProcess := counts.rest },
  { name := "MQTT Adapter"
    protocol := "MQTT"
    mode := "mock"
    description := "Mocked - simulates one inbound message per poll; does not open a " ++
      "real broker connection."
    readingsIngestedThisProcess := counts.mqtt },
  { name := "OPC-UA Connector"
    protocol := "OPC-UA"
    mode := "mock"
    description := "Mocked - simulates one inbound message per poll; does not speak " ++
      "the real OPC-UA wire protocol."
    readingsIngestedThisProcess := counts.opcua }]

/-- What a process holds: the database, the threads of the engine and the counters. -/
structure State (R Uuid : Type) where
  runtime : Runtime.State R Uuid
  ingestCounts : IngestCounts := {}

variable {R Uuid : Type} [Field R] [LinearOrder R] [DecidableEq Uuid]

/-- The session of a request. -/
def onDb {α : Type} (raised : Exc → Failure) (m : Session R Uuid α) :
    Service Failure (State R Uuid) α := fun s =>
  match m s.runtime.db with
  | .ok (a, db) => (.ok a, { s with runtime := { s.runtime with db } })
  | .error e => (.error (raised e), s)

def modifyCounts (f : IngestCounts → IngestCounts) : Service Failure (State R Uuid) Unit :=
  modify fun s => { s with ingestCounts := f s.ingestCounts }

/-- `uuid.UUID(text)`, whose `ValueError` becomes a 400. -/
def parseId (T : Text R Uuid) (code text : String) : Except Failure Uuid :=
  match T.uuid text with
  | .ok u => pure u
  | .error (.valueError msg) => throw (.apiError ⟨400, code, msg⟩)
  | .error e => throw (.unexpected e)

/-- `except UnknownSensorError`. -/
def sensorNotFound : Exc → Failure
  | .unknownSensorError msg => .apiError ⟨404, "SENSOR_NOT_FOUND", msg⟩
  | e => .unexpected e

/-- `POST /ingest/reading`. -/
def ingestReadingEndpoint (T : Text R Uuid) (body : IngestReadingRequest R) (readingId : Uuid) :
    Service Failure (State R Uuid) (SensorReading R Uuid) := do
  let sensorId ← parseId T "INVALID_SENSOR_ID" body.sensorId
  let reading ← onDb sensorNotFound (ingestReading T readingId sensorId body.value (some body.unit)
    body.timestamp body.qualityFlag)
  modifyCounts fun counts => { counts with rest := counts.rest + 1 }
  pure reading

/-- The sensor that a mocked message is about. -/
def mockedSensor (T : Text R Uuid) (zoneId : Uuid) (gasType : String) :
    Service Failure (State R Uuid) (Sensor R Uuid) := do
  let s ← get
  match SensorRepository.getByZoneAndGas s.runtime.db zoneId gasType with
  | none => throw (.apiError ⟨404, "SENSOR_NOT_FOUND",
      s!"No sensor for zone \x27{T.uuidStr zoneId}\x27 monitoring \x27{gasType}\x27."⟩)
  | some sensor => pure sensor

/-- `POST /ingest/mock/{protocol}`. -/
def pollMockConnector (T : Text R Uuid) (protocol : String) (body : MockPollRequest)
    (readingId : Uuid) : Service Failure (State R Uuid) (SensorReading R Uuid) := do
  if protocol ≠ "mqtt" ∧ protocol ≠ "opcua" then
    throw (.apiError ⟨400, "UNKNOWN_PROTOCOL", "protocol must be \x27mqtt\x27 or \x27opcua\x27."⟩)
  let zoneId ← parseId T "INVALID_ZONE_ID" body.zoneId
  let sensor ← mockedSensor T zoneId body.gasType
  let reading ← onDb .unexpected (poll T { sensorId := sensor.sensorId } readingId body.timestamp)
  modifyCounts fun counts =>
    if protocol = "mqtt" then { counts with mqtt := counts.mqtt + 1 }
    else { counts with opcua := counts.opcua + 1 }
  pure reading

/-! ## Runs -/

/-- A request, with the id that `uuid4` draws for its reading. -/
inductive Request (R Uuid : Type)
  | ingestReading (body : IngestReadingRequest R) (readingId : Uuid)
  | pollMockConnector (protocol : String) (body : MockPollRequest) (readingId : Uuid)

def Request.handle (T : Text R Uuid) : Request R Uuid →
    Service Failure (State R Uuid) (SensorReading R Uuid)
  | .ingestReading body readingId => ingestReadingEndpoint T body readingId
  | .pollMockConnector protocol body readingId => Api.pollMockConnector T protocol body readingId

/-- The counter a request increments. -/
inductive Connector
  | rest
  | mqtt
  | opcua
  deriving DecidableEq

def Request.connector : Request R Uuid → Connector
  | .ingestReading _ _ => .rest
  | .pollMockConnector protocol _ _ => if protocol = "mqtt" then .mqtt else .opcua

/-- A request, or a step of the engine. -/
inductive Action (R Uuid : Type)
  | request (r : Request R Uuid)
  | engine (a : Runtime.Action R Uuid)

variable [FloorRing R] [IsStrictOrderedRing R]

def State.next (M : Math R) (T : Text R Uuid) (s : State R Uuid) : Action R Uuid → State R Uuid
  | .request r => (r.handle T s).2
  | .engine a => { s with runtime := s.runtime.next M T a }

def State.run (M : Math R) (T : Text R Uuid) (s : State R Uuid) (actions : List (Action R Uuid)) :
    State R Uuid :=
  actions.foldl (State.next M T) s

/-- The reading that a request answers with. -/
def State.delivered (T : Text R Uuid) (s : State R Uuid) :
    Action R Uuid → Option (Connector × SensorReading R Uuid)
  | .request r => (r.handle T s).1.toOption.map fun reading => (r.connector, reading)
  | .engine _ => none

/-- What the requests of a run delivered, in order. -/
def State.deliveries (M : Math R) (T : Text R Uuid) (s : State R Uuid)
    (actions : List (Action R Uuid)) : List (Connector × SensorReading R Uuid) :=
  Run.outputs (State.next M T) (State.delivered T) s actions

end Api
