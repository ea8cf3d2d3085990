import IndustrialSafety.Db.Models

/-!
# The repositories

`src/infra/db/repositories`: the queries as functions of the database, the writes as transaction
steps. `create` merges on the primary key: an existing row takes the attributes the given object has
and keeps the others. A violated constraint raises `IntegrityError` at the flush.
-/

open Py

variable {R Uuid : Type} [DecidableEq Uuid]

/-- A `CHECK`, foreign key or primary key constraint. -/
def checkConstraint (name : String) (ok : Bool) : Result Unit :=
  if ok then pure () else throw (.integrityError name)

/-- A `NOT NULL` column. -/
def notNull {α : Type} (name : String) (value : Option α) : Result α :=
  match value with
  | some x => pure x
  | none => throw (.integrityError name)

namespace ZoneRepository

def get (db : Db R Uuid) (zoneId : Uuid) : Option (Zone R Uuid) := db.zones.get? zoneId

omit [DecidableEq Uuid] in
/-- Ordered by name in the source; the names are left out, and so is their order. -/
def listAll (db : Db R Uuid) : List (Zone R Uuid) := db.zones.rows

end ZoneRepository

namespace ZoneAdjacencyRepository

def adjacentZoneIds (db : Db R Uuid) (zoneId : Uuid) : List Uuid :=
  (db.zoneAdjacency.rows.filter (·.zoneId = zoneId)).map ZoneAdjacency.adjacentZoneId

end ZoneAdjacencyRepository

namespace SensorRepository

def get (db : Db R Uuid) (sensorId : Uuid) : Option (Sensor R Uuid) := db.sensors.get? sensorId

/-- No order is requested: the first row in storage order. -/
def getByZoneAndGas (db : Db R Uuid) (zoneId : Uuid) (gasType : String) :
    Option (Sensor R Uuid) :=
  db.sensors.rows.find? fun s => s.zoneId = zoneId ∧ s.gasType = gasType

def listByZone (db : Db R Uuid) (zoneId : Uuid) : List (Sensor R Uuid) :=
  db.sensors.rows.filter (·.zoneId = zoneId)

end SensorRepository

namespace EquipmentRepository

def get (db : Db R Uuid) (equipmentId : Uuid) : Option (Equipment Uuid) :=
  db.equipment.get? equipmentId

def listByZone (db : Db R Uuid) (zoneId : Uuid) : List (Equipment Uuid) :=
  db.equipment.rows.filter (·.zoneId = zoneId)

end EquipmentRepository

namespace WorkerRepository

def get (db : Db R Uuid) (workerId : Uuid) : Option (Worker Uuid) := db.workers.get? workerId

def listByCurrentZone (db : Db R Uuid) (zoneId : Uuid) : List (Worker Uuid) :=
  db.workers.rows.filter (·.currentZoneId = some zoneId)

end WorkerRepository

namespace SensorReadingRepository

def latest (db : Db R Uuid) (zoneId : Uuid) (gasType : String) : Option (SensorReading R Uuid) :=
  Query.latest SensorReading.timestamp
    (db.sensorReadings.rows.filter fun r => r.zoneId = zoneId ∧ r.gasType = gasType)

def recent (db : Db R Uuid) (zoneId : Uuid) (gasType : String) (before : Instant) (limit : Nat) :
    List (SensorReading R Uuid) :=
  Query.recent SensorReading.timestamp limit
    (db.sensorReadings.rows.filter fun r =>
      r.zoneId = zoneId ∧ r.gasType = gasType ∧ r.timestamp ≤ before)

/-- A `SensorReading(...)` before it is persisted. -/
structure Args (R Uuid : Type) where
  readingId : Uuid
  sensorId : Uuid
  zoneId : Uuid
  gasType : String
  value : R
  unit : Option String
  timestamp : Instant
  qualityFlag : Option String := none

/-- The row of a `SensorReading(...)` on top of an existing row. -/
def Args.row (args : Args R Uuid) (existing : Option (SensorReading R Uuid)) (unit : String) :
    SensorReading R Uuid where
  readingId := args.readingId
  sensorId := args.sensorId
  zoneId := args.zoneId
  gasType := args.gasType
  value := args.value
  unit := unit
  timestamp := args.timestamp
  qualityFlag := args.qualityFlag.getD ((existing.map SensorReading.qualityFlag).getD "ok")

/-- The row the flush writes, if it violates no constraint. -/
def Args.check (args : Args R Uuid) (db : Db R Uuid) (existing : Option (SensorReading R Uuid)) :
    Result (SensorReading R Uuid) := do
  let unit ← notNull "sensor_readings.unit" args.unit
  let row := args.row existing unit
  checkConstraint "ck_sensor_readings_gas_type" (row.gasType ∈ gasTypes)
  checkConstraint "ck_sensor_readings_quality_flag" (row.qualityFlag ∈ qualityFlags)
  checkConstraint "sensor_readings_sensor_id_fkey" (db.sensors.get? row.sensorId).isSome
  checkConstraint "sensor_readings_zone_id_fkey" (db.zones.get? row.zoneId).isSome
  pure row

def create (args : Args R Uuid) : Session R Uuid (SensorReading R Uuid) := do
  let db ← get
  let row ← args.check db (db.sensorReadings.get? (args.readingId, args.timestamp))
  set { db with sensorReadings := db.sensorReadings.upsert row }
  pure row

/-- `create` of an object without a `reading_id`, for which `uuid4` drew `args.readingId`: an insert,
never a merge onto an existing row. -/
def createWithDefaultId (args : Args R Uuid) : Session R Uuid (SensorReading R Uuid) := do
  let db ← get
  checkConstraint "sensor_readings_pkey"
    (db.sensorReadings.get? (args.readingId, args.timestamp)).isNone
  let row ← args.check db none
  set { db with sensorReadings := db.sensorReadings.upsert row }
  pure row

end SensorReadingRepository

namespace PermitRepository

def listOpenByZone (db : Db R Uuid) (zoneId : Uuid) : List (Permit R Uuid) :=
  db.permits.rows.filter fun p => p.zoneId = zoneId ∧ p.status ≠ .closed

/-- Newest first; an absent argument does not filter. -/
def listAll (db : Db R Uuid) (zoneId : Option Uuid) (status : Option String) (limit : Nat)
    (before after : Option Instant) : List (Permit R Uuid) :=
  (Query.orderByDesc Permit.issuedAt (db.permits.rows.filter fun p =>
    (∀ z ∈ zoneId, p.zoneId = z) ∧ (∀ s ∈ status, p.status.str = s) ∧
      (∀ t ∈ before, p.issuedAt < t) ∧ ∀ t ∈ after, t < p.issuedAt)).take limit

/-- A `Permit(...)` before it is persisted. -/
structure Args (R Uuid : Type) where
  permitId : Uuid
  permitType : String
  zoneId : Uuid
  issuedAt : Instant
  expiresAt : Instant
  authorizingOfficerId : Uuid
  baselineSnapshot : BaselineSnapshot R

def Args.row (args : Args R Uuid) (existing : Option (Permit R Uuid)) : Permit R Uuid where
  permitId := args.permitId
  permitType := args.permitType
  zoneId := args.zoneId
  issuedAt := args.issuedAt
  expiresAt := args.expiresAt
  authorizingOfficerId := args.authorizingOfficerId
  baselineSnapshot := args.baselineSnapshot
  status := (existing.map Permit.status).getD .active

/-- The row the flush writes, if it violates no constraint. -/
def Args.check (args : Args R Uuid) (db : Db R Uuid) : Result (Permit R Uuid) := do
  let row := args.row (db.permits.get? args.permitId)
  checkConstraint "ck_permits_permit_type" (row.permitType ∈ permitTypes)
  checkConstraint "permits_zone_id_fkey" (db.zones.get? row.zoneId).isSome
  checkConstraint "permits_authorizing_officer_id_fkey"
    (db.workers.get? row.authorizingOfficerId).isSome
  pure row

def create (args : Args R Uuid) : Session R Uuid (Permit R Uuid) := do
  let db ← get
  let row ← args.check db
  set { db with permits := db.permits.upsert row }
  pure row

/-- The row of `update_status`. -/
def withStatus (T : Text R Uuid) (db : Db R Uuid) (permitId : Uuid) (newStatus : String) :
    Result (Permit R Uuid) :=
  match db.permits.get? permitId, PermitStatus.ofStr? newStatus with
  | none, _ => throw (.valueError s!"no permit found for id {T.uuidRepr permitId}")
  | some _, none => throw (.integrityError "ck_permits_status")
  | some permit, some status => pure { permit with status }

def updateStatus (T : Text R Uuid) (permitId : Uuid) (newStatus : String) :
    Session R Uuid (Permit R Uuid) := do
  let db ← get
  let row ← withStatus T db permitId newStatus
  set { db with permits := db.permits.upsert row }
  pure row

def get (db : Db R Uuid) (permitId : Uuid) : Option (Permit R Uuid) := db.permits.get? permitId

end PermitRepository

namespace RiskAssessmentRepository

/-- The rows of `get_by_zone_and_timestamp`. -/
def zoneAndTimestampCandidates (db : Db R Uuid) (zoneId : Uuid) (timestamp : Instant) :
    List (RiskAssessment R Uuid) :=
  db.riskAssessments.rows.filter fun a => a.zoneId = zoneId ∧ a.timestamp = timestamp

def getByZoneAndTimestamp (db : Db R Uuid) (zoneId : Uuid) (timestamp : Instant) :
    Option (RiskAssessment R Uuid) :=
  (zoneAndTimestampCandidates db zoneId timestamp).head?

/-- Newest first; an absent bound does not filter, and both are exclusive. -/
def historyByZone (db : Db R Uuid) (zoneId : Uuid) (limit : Nat) (before after : Option Instant) :
    List (RiskAssessment R Uuid) :=
  (Query.orderByDesc RiskAssessment.timestamp (db.riskAssessments.rows.filter fun a =>
    a.zoneId = zoneId ∧ (∀ t ∈ before, a.timestamp < t) ∧ ∀ t ∈ after, t < a.timestamp)).take limit

def latestByZone (db : Db R Uuid) (zoneId : Uuid) : Option (RiskAssessment R Uuid) :=
  Query.latest RiskAssessment.timestamp (db.riskAssessments.rows.filter (·.zoneId = zoneId))

/-- Every column but the key is given, so a merge replaces the row. -/
def create (row : RiskAssessment R Uuid) : Session R Uuid (RiskAssessment R Uuid) := do
  let db ← get
  checkConstraint "risk_assessments_zone_id_fkey" (db.zones.get? row.zoneId).isSome
  set { db with riskAssessments := db.riskAssessments.upsert row }
  pure row

/-- The rows of `get`: by the id alone, the timestamp is the other half of the key. -/
def getCandidates (db : Db R Uuid) (assessmentId : Uuid) : List (RiskAssessment R Uuid) :=
  db.riskAssessments.rows.filter (·.assessmentId = assessmentId)

def get (db : Db R Uuid) (assessmentId : Uuid) : Option (RiskAssessment R Uuid) :=
  (getCandidates db assessmentId).head?

end RiskAssessmentRepository
