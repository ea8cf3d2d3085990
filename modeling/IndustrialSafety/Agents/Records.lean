import IndustrialSafety.Py.Text
import Mathlib.Data.Finset.Basic

/-!
# What the agents read

The record types of `src/domain/agents/*.py` that travel in an agent's context, and the two
vocabularies they share with the database: permit statuses and tiers.
-/

open Py

/-- `PERMIT_STATUSES`. -/
inductive PermitStatus
  | active
  | flagged
  | suspendRecommended
  | closed
deriving DecidableEq, Repr

def PermitStatus.str : PermitStatus → String
  | .active => "active"
  | .flagged => "flagged"
  | .suspendRecommended => "suspend_recommended"
  | .closed => "closed"

def PermitStatus.ofStr? : String → Option PermitStatus
  | "active" => some .active
  | "flagged" => some .flagged
  | "suspend_recommended" => some .suspendRecommended
  | "closed" => some .closed
  | _ => none

theorem PermitStatus.ofStr?_str (status : PermitStatus) : ofStr? status.str = some status := by
  cases status <;> rfl

/-- `TIER_ORDER`, least to most severe. -/
inductive Tier
  | normal
  | watch
  | elevated
  | critical
deriving DecidableEq, Repr

def Tier.str : Tier → String
  | .normal => "normal"
  | .watch => "watch"
  | .elevated => "elevated"
  | .critical => "critical"

/-- `TIER_ORDER.index(tier)`. -/
def Tier.rank : Tier → Nat
  | .normal => 0
  | .watch => 1
  | .elevated => 2
  | .critical => 3

/-- `gas_risk.GasReading`. -/
structure GasReading (R : Type) where
  timestamp : Instant
  value : R

/-- `equipment_status.EquipmentRecord`. -/
structure EquipmentRecord where
  identifier : String
  equipmentType : String
  isolationStatus : String
  maintenanceFlag : Bool
  lotoConfirmed : Bool
deriving DecidableEq, Repr

/-- `worker_exposure.WorkerPresence`. -/
structure WorkerPresence where
  identifier : String
  role : String
deriving DecidableEq, Repr

/-- `worker_exposure.PermitCoverage`. -/
structure PermitCoverage where
  hasActivePermit : Bool
deriving DecidableEq, Repr

/-- `permit_intelligence.PermitBaselineSnapshot`. -/
structure PermitBaselineSnapshot (R : Type) where
  schemaVersion : Int
  algorithmVersion : Int
  gasRiskAtIssuance : R
  confidenceAtIssuance : R
  capturedAt : DateTime

/-- `permit_intelligence.PermitRecord`. -/
structure PermitRecord (R Uuid : Type) where
  identifier : String
  permitType : String
  zoneId : Uuid
  status : PermitStatus
  baseline : PermitBaselineSnapshot R

/-- `permit_intelligence.AdjacentZoneStatus`. -/
structure AdjacentZoneStatus (R Uuid : Type) where
  zoneId : Uuid
  activePermitTypes : Finset String
  gasRiskScore : R
