import IndustrialSafety.Db.Proof.Repositories
import Mathlib.Logic.Relation

/-!
# Runs of writes

`Writes A`: the database changes by any number of upserts of rows that `A` allows, each in its table.
What holds across every write of the pipeline is proved from this relation, by its three cases:

* `Writes.static`: zones, adjacency, sensors, equipment and workers are never written.
* `Writes.permits_eq`: without permit writes the permits stay.
* `Writes.keeps_permits`: a column that no allowed write changes in an existing permit, no run changes.
-/

open Py

variable {R Uuid : Type}

/-- The rows that may be written; a permit, given the database it is written to. -/
structure Allowed (R Uuid : Type) where
  reading : SensorReading R Uuid → Prop
  permit : Db R Uuid → Permit R Uuid → Prop
  assessment : RiskAssessment R Uuid → Prop

/-- No permit; any reading and assessment. -/
def noPermit (R Uuid : Type) : Allowed R Uuid := ⟨fun _ => True, fun _ _ => False, fun _ => True⟩

section
variable [DecidableEq Uuid]

/-- One row written. -/
inductive RowWrite (A : Allowed R Uuid) : Db R Uuid → Db R Uuid → Prop
  | reading (db : Db R Uuid) (row : SensorReading R Uuid) (h : A.reading row) :
    RowWrite A db { db with sensorReadings := db.sensorReadings.upsert row }
  | permit (db : Db R Uuid) (row : Permit R Uuid) (h : A.permit db row) :
    RowWrite A db { db with permits := db.permits.upsert row }
  | assessment (db : Db R Uuid) (row : RiskAssessment R Uuid) (h : A.assessment row) :
    RowWrite A db { db with riskAssessments := db.riskAssessments.upsert row }

/-- Any number of rows written. -/
abbrev Writes (A : Allowed R Uuid) : Db R Uuid → Db R Uuid → Prop :=
  Relation.ReflTransGen (RowWrite A)

end

/-- The tables that are only read agree. -/
structure SameStatic (db db' : Db R Uuid) : Prop where
  zones : db'.zones = db.zones
  zoneAdjacency : db'.zoneAdjacency = db.zoneAdjacency
  sensors : db'.sensors = db.sensors
  equipment : db'.equipment = db.equipment
  workers : db'.workers = db.workers

theorem SameStatic.refl (db : Db R Uuid) : SameStatic db db := ⟨rfl, rfl, rfl, rfl, rfl⟩

variable [DecidableEq Uuid] {A : Allowed R Uuid} {db db' : Db R Uuid}

theorem Writes.static (h : Writes A db db') : SameStatic db db' := by
  induction h with
  | refl => exact .refl db
  | tail _ hw ih => cases hw <;> exact ⟨ih.1, ih.2, ih.3, ih.4, ih.5⟩

theorem Writes.permits_eq (hA : ∀ db row, ¬A.permit db row) (h : Writes A db db') :
    db'.permits = db.permits := by
  induction h with
  | refl => rfl
  | tail _ hw ih =>
    cases hw with
    | reading => exact ih
    | permit row hrow => exact absurd hrow (hA _ row)
    | assessment => exact ih

/-- An invariant that every allowed write keeps. -/
theorem Writes.induction {P : Db R Uuid → Prop} (h : Writes A db db')
    (reading : ∀ db row, P db → A.reading row →
      P { db with sensorReadings := db.sensorReadings.upsert row })
    (permit : ∀ db row, P db → A.permit db row → P { db with permits := db.permits.upsert row })
    (assessment : ∀ db row, P db → A.assessment row →
      P { db with riskAssessments := db.riskAssessments.upsert row })
    (hdb : P db) : P db' := by
  induction h with
  | refl => exact hdb
  | tail _ hw ih =>
    cases hw with
    | reading row hrow => exact reading _ row ih hrow
    | permit row hrow => exact permit _ row ih hrow
    | assessment row hrow => exact assessment _ row ih hrow

/-- Columns of the permits in `db` that no allowed write changes, no run of writes changes. -/
theorem Writes.keeps_permits {β : Type} {column : Permit R Uuid → β} (h : Writes A db db')
    (hA : ∀ d row, SameStatic db d → A.permit d row → ∀ old ∈ db.permits,
      old.permitId = row.permitId → ∀ current ∈ d.permits, current.permitId = row.permitId →
        column current = column old → column row = column old) :
    ∀ old ∈ db.permits, ∃ new ∈ db'.permits, new.permitId = old.permitId ∧
      column new = column old := by
  intro old hold
  induction h with
  | refl => exact ⟨old, hold, rfl, rfl⟩
  | tail hbefore hw ih =>
    obtain ⟨current, hcurrent, hid, hcol⟩ := ih
    cases hw with
    | reading => exact ⟨current, hcurrent, hid, hcol⟩
    | permit row hrow =>
      by_cases hk : current.permitId = row.permitId
      · exact ⟨row, Table.mem_upsert.2 (.inl rfl), hk.symm.trans hid,
          hA _ row (Writes.static hbefore) hrow old hold (hid.symm.trans hk) current hcurrent hk hcol⟩
      · exact ⟨current, Table.mem_upsert.2 (.inr ⟨hcurrent, hk⟩), hid, hcol⟩
    | assessment => exact ⟨current, hcurrent, hid, hcol⟩

/-! ## The writes of the repositories -/

open Transaction

theorem SensorReadingRepository.create_writes {args : SensorReadingRepository.Args R Uuid}
    (hA : ∀ row : SensorReading R Uuid, row.value = args.value → A.reading row) :
    Across (Writes A) (SensorReadingRepository.create args) := by
  intro db row db' h
  obtain ⟨⟨unit, hrow⟩, rfl⟩ := create_ok h
  exact .single (.reading db row (hA row (hrow ▸ rfl)))

theorem SensorReadingRepository.createWithDefaultId_writes
    {args : SensorReadingRepository.Args R Uuid}
    (hA : ∀ row : SensorReading R Uuid, row.value = args.value → A.reading row) :
    Across (Writes A) (SensorReadingRepository.createWithDefaultId args) := by
  intro db row db' h
  obtain ⟨⟨unit, hrow⟩, rfl⟩ := createWithDefaultId_ok h
  exact .single (.reading db row (hA row (hrow ▸ rfl)))

theorem PermitRepository.create_writes {args : PermitRepository.Args R Uuid}
    (hA : ∀ db, A.permit db (args.row (db.permits.get? args.permitId))) :
    Across (Writes A) (PermitRepository.create args) := by
  intro db row db' h
  obtain ⟨rfl, rfl⟩ := create_ok h
  exact .single (.permit db _ (hA db))

theorem PermitRepository.updateStatus_writes {T : Text R Uuid} {permitId : Uuid}
    {newStatus : String}
    (hA : ∀ db, ∀ permit ∈ db.permits, ∀ status, A.permit db { permit with status }) :
    Across (Writes A) (PermitRepository.updateStatus T permitId newStatus) := by
  intro db row db' h
  obtain ⟨permit, status, hpermit, -, rfl, rfl⟩ := updateStatus_ok h
  exact .single (.permit db _ (hA db permit (Table.get?_eq_some.1 hpermit).1 status))
