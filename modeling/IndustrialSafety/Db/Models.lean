import IndustrialSafety.Lib.Table
import IndustrialSafety.Lib.Transaction
import IndustrialSafety.Orchestrator.Justification

/-!
# The database

The tables of `src/infra/db/models` the pipeline reads or writes, with the columns it uses.
Timestamps are stored as instants (`timestamptz`), numbers exactly (`numeric`). A JSONB column is a
record; the `Option` fields of `BaselineSnapshot` are keys that may be missing.
-/

open Py

/-! ## Rows -/

structure Zone (R Uuid : Type) where
  zoneId : Uuid
  elevatedFloorOverride : Option R := none

structure ZoneAdjacency (Uuid : Type) where
  zoneId : Uuid
  adjacentZoneId : Uuid

/-- `GAS_TYPES`. -/
def gasTypes : List String := ["CO", "H2S", "CH4", "O2", "COG_pressure", "BFG_pressure"]

structure Sensor (R Uuid : Type) where
  sensorId : Uuid
  zoneId : Uuid
  gasType : String
  lastCalibratedAt : Option Instant := none
  alarmThreshold : R

structure Equipment (Uuid : Type) where
  equipmentId : Uuid
  zoneId : Uuid
  equipmentType : String
  isolationStatus : String
  maintenanceFlag : Bool := false
  lotoConfirmed : Bool := false

structure Worker (Uuid : Type) where
  workerId : Uuid
  role : String
  currentZoneId : Option Uuid := none

/-- `QUALITY_FLAGS`. -/
def qualityFlags : List String := ["ok", "stale", "out_of_calibration"]

structure SensorReading (R Uuid : Type) where
  readingId : Uuid
  sensorId : Uuid
  zoneId : Uuid
  gasType : String
  value : R
  unit : String
  timestamp : Instant
  qualityFlag : String

/-- The JSONB `baseline_snapshot`. -/
structure BaselineSnapshot (R : Type) where
  schemaVersion : Option Int := none
  algorithmVersion : Option Int := none
  gasRiskAtIssuance : Option R := none
  confidenceAtIssuance : Option R := none
  capturedAt : Option String := none
deriving DecidableEq

/-- `PERMIT_TYPES`. -/
def permitTypes : List String := ["hot_work", "confined_space", "electrical_isolation", "line_break"]

structure Permit (R Uuid : Type) where
  permitId : Uuid
  permitType : String
  zoneId : Uuid
  issuedAt : Instant
  expiresAt : Instant
  authorizingOfficerId : Uuid
  baselineSnapshot : BaselineSnapshot R
  status : PermitStatus
deriving DecidableEq

structure RiskAssessment (R Uuid : Type) where
  assessmentId : Uuid
  zoneId : Uuid
  timestamp : Instant
  compoundRiskScore : R
  confidence : R
  tier : Tier
  justification : Justification.RiskAssessmentJustification R

/-! ## Tables -/

structure Db (R Uuid : Type) where
  zones : Table fun z : Zone R Uuid => z.zoneId := .empty
  zoneAdjacency : Table fun a : ZoneAdjacency Uuid => (a.zoneId, a.adjacentZoneId) := .empty
  sensors : Table fun s : Sensor R Uuid => s.sensorId := .empty
  equipment : Table fun e : Equipment Uuid => e.equipmentId := .empty
  workers : Table fun w : Worker Uuid => w.workerId := .empty
  permits : Table fun p : Permit R Uuid => p.permitId := .empty
  sensorReadings : Table fun r : SensorReading R Uuid => (r.readingId, r.timestamp) := .empty
  riskAssessments : Table fun a : RiskAssessment R Uuid => (a.assessmentId, a.timestamp) := .empty

/-- The body of a `with get_session()` block. -/
abbrev Session (R Uuid : Type) := Transaction Exc (Db R Uuid)
