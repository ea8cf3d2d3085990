import IndustrialSafety.Db.Repositories

/-!
# What the writes do

A write that succeeds upserts one row into its table and changes no other table. The row is the given
object's, on top of the row it merges onto.
-/

open Py

variable {R Uuid : Type} [DecidableEq Uuid] {db db' : Db R Uuid}

theorem checkConstraint_ok {name : String} {ok : Bool} {u : Unit} :
    checkConstraint name ok = .ok u ↔ ok = true := by
  cases ok with
  | false => exact iff_of_false nofun nofun
  | true => exact iff_of_true rfl rfl

namespace SensorReadingRepository

variable {args : Args R Uuid} {row : SensorReading R Uuid}

theorem check_ok {existing : Option (SensorReading R Uuid)}
    (h : args.check db existing = .ok row) : ∃ unit, row = args.row existing unit := by
  obtain ⟨unit, -, h⟩ := Except.bind_eq_ok.1 h
  obtain ⟨-, -, h⟩ := Except.bind_eq_ok.1 h
  obtain ⟨-, -, h⟩ := Except.bind_eq_ok.1 h
  obtain ⟨-, -, h⟩ := Except.bind_eq_ok.1 h
  obtain ⟨-, -, h⟩ := Except.bind_eq_ok.1 h
  cases h
  exact ⟨unit, rfl⟩

theorem create_ok (h : create args db = .ok (row, db')) :
    (∃ unit, row = args.row (db.sensorReadings.get? (args.readingId, args.timestamp)) unit) ∧
      db' = { db with sensorReadings := db.sensorReadings.upsert row } := by
  rw [create, Transaction.get_bind] at h
  obtain ⟨_, hrow, h⟩ := Transaction.lift_bind_eq_ok.1 h
  cases h
  exact ⟨check_ok hrow, rfl⟩

theorem createWithDefaultId_ok (h : createWithDefaultId args db = .ok (row, db')) :
    (∃ unit, row = args.row none unit) ∧
      db' = { db with sensorReadings := db.sensorReadings.upsert row } := by
  rw [createWithDefaultId, Transaction.get_bind] at h
  obtain ⟨-, -, h⟩ := Transaction.lift_bind_eq_ok.1 h
  obtain ⟨_, hrow, h⟩ := Transaction.lift_bind_eq_ok.1 h
  cases h
  exact ⟨check_ok hrow, rfl⟩

end SensorReadingRepository

namespace PermitRepository

variable {args : Args R Uuid} {row : Permit R Uuid}

theorem create_ok (h : create args db = .ok (row, db')) :
    row = args.row (db.permits.get? args.permitId) ∧
      db' = { db with permits := db.permits.upsert row } := by
  rw [create, Transaction.get_bind] at h
  obtain ⟨_, hrow, h⟩ := Transaction.lift_bind_eq_ok.1 h
  cases h
  obtain ⟨-, -, hrow⟩ := Except.bind_eq_ok.1 hrow
  obtain ⟨-, -, hrow⟩ := Except.bind_eq_ok.1 hrow
  obtain ⟨-, -, hrow⟩ := Except.bind_eq_ok.1 hrow
  cases hrow
  exact ⟨rfl, rfl⟩

/-- `update_status` changes the status of an existing row. -/
theorem updateStatus_ok {T : Text R Uuid} {permitId : Uuid} {newStatus : String}
    (h : updateStatus T permitId newStatus db = .ok (row, db')) :
    ∃ permit status, db.permits.get? permitId = some permit ∧
      PermitStatus.ofStr? newStatus = some status ∧ row = { permit with status } ∧
        db' = { db with permits := db.permits.upsert row } := by
  rw [updateStatus, Transaction.get_bind] at h
  obtain ⟨_, hrow, h⟩ := Transaction.lift_bind_eq_ok.1 h
  cases h
  unfold withStatus at hrow
  split at hrow
  · cases hrow
  · cases hrow
  · rename_i permit status hpermit hstatus
    cases hrow
    exact ⟨permit, status, hpermit, hstatus, rfl, rfl⟩

theorem updateStatus_eq {T : Text R Uuid} {permitId : Uuid} {permit : Permit R Uuid}
    {status : PermitStatus} (h : db.permits.get? permitId = some permit) :
    updateStatus T permitId status.str db = .ok ({ permit with status },
      { db with permits := db.permits.upsert { permit with status } }) := by
  rw [updateStatus, Transaction.get_bind]
  refine Transaction.lift_bind_eq_ok.2 ⟨_, ?_, rfl⟩
  rw [withStatus, h, PermitStatus.ofStr?_str]
  rfl

end PermitRepository

namespace RiskAssessmentRepository

variable {row row' : RiskAssessment R Uuid}

theorem create_eq_ok : create row db = .ok (row', db') ↔ (db.zones.get? row.zoneId).isSome ∧
    row' = row ∧ db' = { db with riskAssessments := db.riskAssessments.upsert row } := by
  rw [create, Transaction.get_bind, Transaction.lift_bind_eq_ok, Unique.exists_iff,
    checkConstraint_ok]
  refine and_congr_right fun _ => ?_
  constructor
  · intro h
    cases h
    exact ⟨rfl, rfl⟩
  · rintro ⟨rfl, rfl⟩
    rfl

end RiskAssessmentRepository
