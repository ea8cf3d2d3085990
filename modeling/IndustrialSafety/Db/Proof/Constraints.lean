import IndustrialSafety.Db.Proof.Repositories

/-!
# The constraints of the tables

`Constrained`: every row satisfies the `CHECK` and foreign key constraints of its table. A create
returns iff the row it would write does (`SensorReadingRepository.create_eq_ok`,
`PermitRepository.create_eq_ok`), so every write keeps a database constrained.
-/

open Py

/-- `ISOLATION_STATUSES`. -/
def isolationStatuses : List String := ["isolated", "active", "degraded"]

/-- `WORKER_ROLES`. -/
def workerRoles : List String := ["operator", "supervisor", "safety_officer", "contractor", "auditor"]

variable {R Uuid : Type} [DecidableEq Uuid]

structure SensorReading.Constrained (db : Db R Uuid) (row : SensorReading R Uuid) : Prop where
  gasType : row.gasType ∈ gasTypes
  qualityFlag : row.qualityFlag ∈ qualityFlags
  sensorId : (db.sensors.get? row.sensorId).isSome
  zoneId : (db.zones.get? row.zoneId).isSome

structure Permit.Constrained (db : Db R Uuid) (row : Permit R Uuid) : Prop where
  permitType : row.permitType ∈ permitTypes
  zoneId : (db.zones.get? row.zoneId).isSome
  authorizingOfficerId : (db.workers.get? row.authorizingOfficerId).isSome

/-- Every row satisfies its table's constraints. -/
structure Constrained (db : Db R Uuid) : Prop where
  adjacency : ∀ a ∈ db.zoneAdjacency, (db.zones.get? a.zoneId).isSome ∧
    (db.zones.get? a.adjacentZoneId).isSome ∧ a.zoneId ≠ a.adjacentZoneId
  sensor : ∀ s ∈ db.sensors, s.gasType ∈ gasTypes ∧ (db.zones.get? s.zoneId).isSome
  equipment : ∀ e ∈ db.equipment,
    e.isolationStatus ∈ isolationStatuses ∧ (db.zones.get? e.zoneId).isSome
  worker : ∀ w ∈ db.workers, w.role ∈ workerRoles ∧
    ∀ z ∈ w.currentZoneId, (db.zones.get? z).isSome
  reading : ∀ r ∈ db.sensorReadings, r.Constrained db
  permit : ∀ p ∈ db.permits, p.Constrained db
  assessment : ∀ a ∈ db.riskAssessments, (db.zones.get? a.zoneId).isSome

variable {db db' : Db R Uuid}

theorem checkConstraint_error {name : String} {ok : Bool} {e : Exc}
    (h : checkConstraint name ok = .error e) : e = .integrityError name := by
  unfold checkConstraint at h
  split at h
  · cases h
  · exact (Except.error.inj h).symm

namespace SensorReadingRepository

variable {args : Args R Uuid} {row : SensorReading R Uuid}
  {existing : Option (SensorReading R Uuid)}

theorem check_eq_ok : args.check db existing = .ok row ↔
    ∃ unit, args.unit = some unit ∧ row = args.row existing unit ∧ row.Constrained db := by
  rw [Args.check, Except.bind_eq_ok]
  refine exists_congr fun unit => ?_
  have hunit : notNull "sensor_readings.unit" args.unit = .ok unit ↔ args.unit = some unit := by
    cases args.unit <;> simp [notNull]
  simp only [Except.bind_eq_ok, checkConstraint_ok, decide_eq_true_eq, hunit]
  refine and_congr_right fun _ => ⟨fun h => ?_, fun h => ?_⟩
  · obtain ⟨-, hgas, -, hflag, -, hsensor, -, hzone, h⟩ := h
    cases h
    exact ⟨rfl, hgas, hflag, hsensor, hzone⟩
  · obtain ⟨rfl, hgas, hflag, hsensor, hzone⟩ := h
    exact ⟨(), hgas, (), hflag, (), hsensor, (), hzone, rfl⟩

theorem create_eq_ok : create args db = .ok (row, db') ↔
    (∃ unit, args.unit = some unit ∧
      row = args.row (db.sensorReadings.get? (args.readingId, args.timestamp)) unit ∧
        row.Constrained db) ∧
      db' = { db with sensorReadings := db.sensorReadings.upsert row } := by
  rw [create, Transaction.get_bind, Transaction.lift_bind_eq_ok, ← check_eq_ok]
  refine ⟨fun h => ?_, fun h => ?_⟩
  · obtain ⟨row', hrow, h⟩ := h
    cases h
    exact ⟨hrow, rfl⟩
  · obtain ⟨hrow, rfl⟩ := h
    exact ⟨row, hrow, rfl⟩

/-- An insert under an id that no row has. -/
theorem createWithDefaultId_eq_ok
    (hfresh : db.sensorReadings.get? (args.readingId, args.timestamp) = none) :
    createWithDefaultId args db = .ok (row, db') ↔
      (∃ unit, args.unit = some unit ∧ row = args.row none unit ∧ row.Constrained db) ∧
        db' = { db with sensorReadings := db.sensorReadings.upsert row } := by
  rw [createWithDefaultId, Transaction.get_bind, Transaction.lift_bind_eq_ok, Unique.exists_iff,
    checkConstraint_ok, hfresh, Transaction.lift_bind_eq_ok, ← check_eq_ok]
  refine ⟨fun h => ?_, fun h => ?_⟩
  · obtain ⟨-, row', hrow, h⟩ := h
    cases h
    exact ⟨hrow, rfl⟩
  · obtain ⟨hrow, rfl⟩ := h
    exact ⟨rfl, row, hrow, rfl⟩

theorem check_error {e : Exc} (h : args.check db existing = .error e) :
    ∃ constraint, e = .integrityError constraint := by
  rcases Except.bind_eq_error.1 h with h | ⟨unit, -, h⟩
  · unfold notNull at h
    split at h
    · cases h
    · exact ⟨_, (Except.error.inj h).symm⟩
  · rcases Except.bind_eq_error.1 h with h | ⟨-, -, h⟩
    · exact ⟨_, checkConstraint_error h⟩
    · rcases Except.bind_eq_error.1 h with h | ⟨-, -, h⟩
      · exact ⟨_, checkConstraint_error h⟩
      · rcases Except.bind_eq_error.1 h with h | ⟨-, -, h⟩
        · exact ⟨_, checkConstraint_error h⟩
        · rcases Except.bind_eq_error.1 h with h | ⟨-, -, h⟩
          · exact ⟨_, checkConstraint_error h⟩
          · cases h

/-- What an insert raises comes from a constraint. -/
theorem createWithDefaultId_error {e : Exc} (h : createWithDefaultId args db = .error e) :
    ∃ constraint, e = .integrityError constraint := by
  rw [createWithDefaultId, Transaction.get_bind, Transaction.bind_apply] at h
  cases hkey : checkConstraint "sensor_readings_pkey"
      (db.sensorReadings.get? (args.readingId, args.timestamp)).isNone with
  | error e' =>
    rw [hkey] at h
    cases h
    exact ⟨_, checkConstraint_error hkey⟩
  | ok u =>
    rw [hkey] at h
    replace h : ((liftM (args.check db none) : Session R Uuid _) >>= _) db = .error e := h
    rw [Transaction.bind_apply] at h
    cases hcheck : args.check db none with
    | error e' =>
      rw [hcheck] at h
      cases h
      exact check_error hcheck
    | ok row =>
      rw [hcheck] at h
      cases h

end SensorReadingRepository

namespace PermitRepository

variable {args : Args R Uuid} {row : Permit R Uuid}

theorem create_eq_ok : create args db = .ok (row, db') ↔
    row = args.row (db.permits.get? args.permitId) ∧ row.Constrained db ∧
      db' = { db with permits := db.permits.upsert row } := by
  have hcheck : args.check db = .ok row ↔
      row = args.row (db.permits.get? args.permitId) ∧ row.Constrained db := by
    simp only [Args.check, Except.bind_eq_ok, checkConstraint_ok, decide_eq_true_eq]
    refine ⟨fun h => ?_, fun h => ?_⟩
    · obtain ⟨-, htype, -, hzone, -, hofficer, h⟩ := h
      cases h
      exact ⟨rfl, htype, hzone, hofficer⟩
    · obtain ⟨rfl, htype, hzone, hofficer⟩ := h
      exact ⟨(), htype, (), hzone, (), hofficer, rfl⟩
  rw [create, Transaction.get_bind, Transaction.lift_bind_eq_ok, ← and_assoc, ← hcheck]
  refine ⟨fun h => ?_, fun h => ?_⟩
  · obtain ⟨row', hrow, h⟩ := h
    cases h
    exact ⟨hrow, rfl⟩
  · obtain ⟨hrow, rfl⟩ := h
    exact ⟨row, hrow, rfl⟩

theorem check_ok (h : args.check db = .ok row) : row = args.row (db.permits.get? args.permitId) := by
  have hcreate : create args db = .ok (row, { db with permits := db.permits.upsert row }) := by
    rw [create, Transaction.get_bind]
    exact Transaction.lift_bind_eq_ok.2 ⟨row, h, rfl⟩
  exact (create_eq_ok.1 hcreate).1

end PermitRepository
