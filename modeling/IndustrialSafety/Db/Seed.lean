import IndustrialSafety.Agents.GasRisk
import IndustrialSafety.Db.Proof.Constraints

/-!
# Seeding

`src/infra/db/seed.py`: the plant of a fixture is written in one session, each entry merged onto the row
with the id its key resolves to. A zone's name and section and the table of the incidents are not part of
`Db`; the constraints on their entries are checked. `isDate s` is whether `date.fromisoformat(s)` returns.
-/

open Py

variable {R Uuid : Type} [DecidableEq Uuid]

/-! ## `create` of the static tables -/

/-- `session.merge(object)` and the flush: the object's columns on top of the stored row, if it violates no
constraint. -/
def mergeObject {α β κ : Type} [DecidableEq κ] {key : α → κ} (table : Db R Uuid → Table key)
    (store : Db R Uuid → Table key → Db R Uuid) (row : β → Option α → α) (argKey : β → κ)
    (check : Db R Uuid → β → Result Unit) (object : β) : Session R Uuid α := do
  let db ← get
  let merged := row object ((table db).get? (argKey object))
  check db object
  set (store db ((table db).upsert merged))
  pure merged

/-- `OISD_AREA_CLASSIFICATIONS`. -/
def oisdAreaClassifications : List String := ["zone_0", "zone_1", "zone_2", "unclassified"]

/-- `INCIDENT_SOURCES`. -/
def incidentSources : List String := ["internal_near_miss", "historical_case", "regulatory_bulletin"]

namespace ZoneRepository

structure Args (Uuid : Type) where
  zoneId : Uuid
  oisdAreaClassification : String

def Args.row (args : Args Uuid) (existing : Option (Zone R Uuid)) : Zone R Uuid where
  zoneId := args.zoneId
  elevatedFloorOverride := existing.bind Zone.elevatedFloorOverride

def Args.check (_ : Db R Uuid) (args : Args Uuid) : Result Unit :=
  checkConstraint "ck_zones_oisd_area_classification"
    (args.oisdAreaClassification ∈ oisdAreaClassifications)

def create : Args Uuid → Session R Uuid (Zone R Uuid) :=
  mergeObject (fun db => db.zones) (fun db zones => { db with zones }) Args.row Args.zoneId
    Args.check

end ZoneRepository

namespace ZoneAdjacencyRepository

def check (db : Db R Uuid) (a : ZoneAdjacency Uuid) : Result Unit := do
  checkConstraint "ck_zone_adjacency_not_self" (a.zoneId ≠ a.adjacentZoneId)
  checkConstraint "zone_adjacency_zone_id_fkey" (db.zones.get? a.zoneId).isSome
  checkConstraint "zone_adjacency_adjacent_zone_id_fkey" (db.zones.get? a.adjacentZoneId).isSome

def create : ZoneAdjacency Uuid → Session R Uuid (ZoneAdjacency Uuid) :=
  mergeObject (fun db => db.zoneAdjacency) (fun db zoneAdjacency => { db with zoneAdjacency })
    (fun a _ => a) (fun a => (a.zoneId, a.adjacentZoneId)) check

end ZoneAdjacencyRepository

namespace SensorRepository

structure Args (R Uuid : Type) where
  sensorId : Uuid
  zoneId : Uuid
  gasType : String
  alarmThreshold : R

def Args.row (args : Args R Uuid) (existing : Option (Sensor R Uuid)) : Sensor R Uuid where
  sensorId := args.sensorId
  zoneId := args.zoneId
  gasType := args.gasType
  lastCalibratedAt := existing.bind Sensor.lastCalibratedAt
  alarmThreshold := args.alarmThreshold

def Args.check (db : Db R Uuid) (args : Args R Uuid) : Result Unit := do
  checkConstraint "ck_sensors_gas_type" (args.gasType ∈ gasTypes)
  checkConstraint "sensors_zone_id_fkey" (db.zones.get? args.zoneId).isSome

def create : Args R Uuid → Session R Uuid (Sensor R Uuid) :=
  mergeObject (fun db => db.sensors) (fun db sensors => { db with sensors }) Args.row Args.sensorId
    Args.check

end SensorRepository

namespace WorkerRepository

def check (db : Db R Uuid) (w : Worker Uuid) : Result Unit := do
  checkConstraint "ck_workers_role" (w.role ∈ workerRoles)
  checkConstraint "workers_current_zone_id_fkey"
    (w.currentZoneId.all fun z => (db.zones.get? z).isSome)

/-- Every column is given. -/
def create : Worker Uuid → Session R Uuid (Worker Uuid) :=
  mergeObject (fun db => db.workers) (fun db workers => { db with workers }) (fun w _ => w)
    Worker.workerId check

end WorkerRepository

namespace EquipmentRepository

structure Args (Uuid : Type) where
  equipmentId : Uuid
  zoneId : Uuid
  equipmentType : String
  isolationStatus : String

def Args.row (args : Args Uuid) (existing : Option (Equipment Uuid)) : Equipment Uuid where
  equipmentId := args.equipmentId
  zoneId := args.zoneId
  equipmentType := args.equipmentType
  isolationStatus := args.isolationStatus
  maintenanceFlag := (existing.map Equipment.maintenanceFlag).getD false
  lotoConfirmed := (existing.map Equipment.lotoConfirmed).getD false

def Args.check (db : Db R Uuid) (args : Args Uuid) : Result Unit := do
  checkConstraint "ck_equipment_isolation_status" (args.isolationStatus ∈ isolationStatuses)
  checkConstraint "equipment_zone_id_fkey" (db.zones.get? args.zoneId).isSome

def create : Args Uuid → Session R Uuid (Equipment Uuid) :=
  mergeObject (fun db => db.equipment) (fun db equipment => { db with equipment }) Args.row
    Args.equipmentId Args.check

end EquipmentRepository

namespace IncidentRepository

structure Args (Uuid : Type) where
  source : String
  linkedZoneId : Option Uuid

def Args.check (db : Db R Uuid) (args : Args Uuid) : Result Unit := do
  checkConstraint "ck_incidents_source" (args.source ∈ incidentSources)
  checkConstraint "incidents_linked_zone_id_fkey"
    (args.linkedZoneId.all fun z => (db.zones.get? z).isSome)

/-- The table is left out. -/
def create (args : Args Uuid) : Session R Uuid Unit := do
  let db ← get
  args.check db

end IncidentRepository

/-! ## The fixture -/

namespace Seed

structure ZoneEntry where
  id : String
  oisdAreaClassification : String

structure AdjacencyEntry where
  zone : String
  adjacentZone : String

structure SensorEntry (R : Type) where
  id : String
  zone : String
  gasType : String
  alarmThreshold : R

structure WorkerEntry where
  id : String
  role : String
  currentZone : Option String

structure EquipmentEntry where
  id : String
  zone : String
  equipmentType : String
  isolationStatus : String

structure PermitEntry where
  id : String
  permitType : String
  zone : String
  issuedAt : String
  expiresAt : String
  authorizingOfficer : String

structure IncidentEntry where
  id : String
  source : String
  linkedZone : Option String
  date : String

/-- `demo_plant.json`. -/
structure Fixture (R : Type) where
  zones : List ZoneEntry
  zoneAdjacency : List AdjacencyEntry
  sensors : List (SensorEntry R)
  workers : List WorkerEntry
  equipment : List EquipmentEntry
  permits : List PermitEntry
  incidents : List IncidentEntry

section
variable (T : Text R Uuid)

/-- `_id(key) if key else None`. -/
def optionalId (key : Option String) : Option Uuid := (key.filter (· ≠ "")).map T.resolveId

def ZoneEntry.args (z : ZoneEntry) : ZoneRepository.Args Uuid :=
  ⟨T.resolveId z.id, z.oisdAreaClassification⟩

def AdjacencyEntry.row (a : AdjacencyEntry) : ZoneAdjacency Uuid :=
  ⟨T.resolveId a.zone, T.resolveId a.adjacentZone⟩

def SensorEntry.args (s : SensorEntry R) : SensorRepository.Args R Uuid :=
  ⟨T.resolveId s.id, T.resolveId s.zone, s.gasType, s.alarmThreshold⟩

def WorkerEntry.row (w : WorkerEntry) : Worker Uuid :=
  ⟨T.resolveId w.id, w.role, optionalId T w.currentZone⟩

def EquipmentEntry.args (e : EquipmentEntry) : EquipmentRepository.Args Uuid :=
  ⟨T.resolveId e.id, T.resolveId e.zone, e.equipmentType, e.isolationStatus⟩

def IncidentEntry.args (isDate : String → Bool) (i : IncidentEntry) :
    Result (IncidentRepository.Args Uuid) :=
  if isDate i.date then pure ⟨i.source, optionalId T i.linkedZone⟩
  else throw (.valueError s!"Invalid isoformat string: {strRepr i.date}")

def IncidentEntry.create (isDate : String → Bool) (i : IncidentEntry) : Session R Uuid Unit := do
  let args ← i.args T isDate
  IncidentRepository.create args

end

variable [Field R] [LinearOrder R] (M : Math R) (T : Text R Uuid)

/-- `_seed_baseline_snapshot`. -/
def seedBaselineSnapshot (issuedAt : DateTime) : Result (BaselineSnapshot R) := do
  let config := GasRisk.GasRiskConfig.default M
  let gasRiskAtIssuance ←
    GasRisk.calculateRisk M [] 1 config.defaultElevatedFloor issuedAt.instant config
  pure {
    schemaVersion := some 1
    algorithmVersion := some config.formulaVersion
    gasRiskAtIssuance := some gasRiskAtIssuance
    confidenceAtIssuance := some (GasRisk.calculateConfidence M [] none issuedAt.instant config)
    capturedAt := some (T.isoformat issuedAt) }

def PermitEntry.args (p : PermitEntry) : Result (PermitRepository.Args R Uuid) := do
  let issuedAt ← T.datetime p.issuedAt
  let expiresAt ← T.datetime p.expiresAt
  let baselineSnapshot ← seedBaselineSnapshot M T issuedAt
  pure ⟨T.resolveId p.id, p.permitType, T.resolveId p.zone, issuedAt.instant, expiresAt.instant,
    T.resolveId p.authorizingOfficer, baselineSnapshot⟩

def PermitEntry.create (p : PermitEntry) : Session R Uuid (Permit R Uuid) := do
  let args ← p.args M T
  PermitRepository.create args

/-- The session of `seed`. -/
def body (isDate : String → Bool) (data : Fixture R) : Session R Uuid Unit := do
  let _ ← data.zones.mapM fun z => ZoneRepository.create (z.args T)
  let _ ← data.zoneAdjacency.mapM fun a => ZoneAdjacencyRepository.create (a.row T)
  let _ ← data.sensors.mapM fun s => SensorRepository.create (s.args T)
  let _ ← data.workers.mapM fun w => WorkerRepository.create (w.row T)
  let _ ← data.equipment.mapM fun e => EquipmentRepository.create (e.args T)
  let _ ← data.permits.mapM (PermitEntry.create M T)
  let _ ← data.incidents.mapM (IncidentEntry.create T isDate)

def seed (isDate : String → Bool) (data : Fixture R) : Service Exc (Db R Uuid) Unit :=
  Service.transaction (body M T isDate data)

end Seed
