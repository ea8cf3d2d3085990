import IndustrialSafety.Services.Proof.Identity
import IndustrialSafety.Services.Proof.Persist
import IndustrialSafety.Services.Proof.Writes

/-!
# Consistency over whole runs

`Sound`: what every write of the engine does to the database. Rows are replaced, never removed, the static
tables are left alone, and a database that is consistent stays so: every row satisfies the constraints of
its table, a reading has the zone and the gas of its sensor, and no permit expires before it is issued. The
last two are not constraints of the schema: the columns are copied or computed by each of the writers.
-/

open Py

variable {R Uuid : Type}

structure Consistent [DecidableEq Uuid] (db : Db R Uuid) : Prop where
  constrained : Constrained db
  reading : ∀ r ∈ db.sensorReadings, ∃ sensor ∈ db.sensors, sensor.sensorId = r.sensorId ∧
    sensor.zoneId = r.zoneId ∧ sensor.gasType = r.gasType
  permit : ∀ p ∈ db.permits, p.issuedAt ≤ p.expiresAt

/-- Every row is there, or one that replaced it. -/
def Keeps.Rows {α κ : Type} {key : α → κ} (t t' : Table key) : Prop :=
  ∀ row ∈ t, ∃ row' ∈ t', key row' = key row

theorem Keeps.Rows.refl {α κ : Type} {key : α → κ} (t : Table key) : Rows t t :=
  fun row hrow => ⟨row, hrow, rfl⟩

theorem Keeps.Rows.trans {α κ : Type} {key : α → κ} {t t' t'' : Table key} (h : Rows t t')
    (h' : Rows t' t'') : Rows t t'' := by
  intro row hrow
  obtain ⟨row', hrow', hkey⟩ := h row hrow
  obtain ⟨row'', hrow'', hkey'⟩ := h' row' hrow'
  exact ⟨row'', hrow'', hkey'.trans hkey⟩

theorem Keeps.Rows.upsert {α κ : Type} {key : α → κ} [DecidableEq κ] (t : Table key) (row : α) :
    Rows t (t.upsert row) := by
  intro r hr
  by_cases hkey : key r = key row
  · exact ⟨row, Table.mem_upsert.2 (.inl rfl), hkey.symm⟩
  · exact ⟨r, Table.mem_upsert.2 (.inr ⟨hr, hkey⟩), rfl⟩

theorem Keeps.Rows.isSome {α κ : Type} {key : α → κ} [DecidableEq κ] {t t' : Table key} (h : Rows t t')
    {k : κ} (hk : (t.get? k).isSome) : (t'.get? k).isSome := by
  obtain ⟨row, hrow⟩ := Option.isSome_iff_exists.1 hk
  obtain ⟨hmem, rfl⟩ := Table.get?_eq_some.1 hrow
  obtain ⟨row', hmem', hkey⟩ := h row hmem
  exact Option.isSome_iff_exists.2 ⟨row', Table.get?_eq_some.2 ⟨hmem', hkey⟩⟩

variable [DecidableEq Uuid]

structure Sound (db db' : Db R Uuid) : Prop where
  static : SameStatic db db'
  sensorReadings : Keeps.Rows db.sensorReadings db'.sensorReadings
  permits : Keeps.Rows db.permits db'.permits
  riskAssessments : Keeps.Rows db.riskAssessments db'.riskAssessments
  consistent : Consistent db → Consistent db'

instance : Std.Refl (Sound : Db R Uuid → Db R Uuid → Prop) :=
  ⟨fun db => ⟨.refl db, .refl _, .refl _, .refl _, id⟩⟩

instance : IsTrans (Db R Uuid) Sound where
  trans _ _ _ h h' := ⟨⟨h'.static.zones.trans h.static.zones,
    h'.static.zoneAdjacency.trans h.static.zoneAdjacency, h'.static.sensors.trans h.static.sensors,
    h'.static.equipment.trans h.static.equipment, h'.static.workers.trans h.static.workers⟩,
    h.sensorReadings.trans h'.sensorReadings, h.permits.trans h'.permits,
    h.riskAssessments.trans h'.riskAssessments, fun hdb => h'.consistent (h.consistent hdb)⟩

/-! ## One row -/

section
variable {db : Db R Uuid}

theorem sound_reading {row : SensorReading R Uuid} (hrow : row.Constrained db)
    (hsensor : ∃ sensor ∈ db.sensors, sensor.sensorId = row.sensorId ∧ sensor.zoneId = row.zoneId ∧
      sensor.gasType = row.gasType) :
    Sound db { db with sensorReadings := db.sensorReadings.upsert row } where
  static := ⟨rfl, rfl, rfl, rfl, rfl⟩
  sensorReadings := .upsert _ _
  permits := .refl _
  riskAssessments := .refl _
  consistent h := by
    refine ⟨⟨h.constrained.adjacency, h.constrained.sensor, h.constrained.equipment,
      h.constrained.worker, fun r hr => ?_, fun p hp => ?_, h.constrained.assessment⟩, fun r hr => ?_,
      h.permit⟩
    · rcases Table.mem_upsert.1 hr with rfl | ⟨hr, -⟩
      · exact ⟨hrow.gasType, hrow.qualityFlag, hrow.sensorId, hrow.zoneId⟩
      · have hr := h.constrained.reading r hr
        exact ⟨hr.gasType, hr.qualityFlag, hr.sensorId, hr.zoneId⟩
    · have hp := h.constrained.permit p hp
      exact ⟨hp.permitType, hp.zoneId, hp.authorizingOfficerId⟩
    · rcases Table.mem_upsert.1 hr with rfl | ⟨hr, -⟩
      · exact hsensor
      · exact h.reading r hr

theorem sound_permit {row : Permit R Uuid}
    (hrow : Consistent db → row.Constrained db ∧ row.issuedAt ≤ row.expiresAt) :
    Sound db { db with permits := db.permits.upsert row } where
  static := ⟨rfl, rfl, rfl, rfl, rfl⟩
  sensorReadings := .refl _
  permits := .upsert _ _
  riskAssessments := .refl _
  consistent h := by
    refine ⟨⟨h.constrained.adjacency, h.constrained.sensor, h.constrained.equipment,
      h.constrained.worker, fun r hr => ?_, fun p hp => ?_, h.constrained.assessment⟩, h.reading,
      fun p hp => ?_⟩
    · have hr := h.constrained.reading r hr
      exact ⟨hr.gasType, hr.qualityFlag, hr.sensorId, hr.zoneId⟩
    · rcases Table.mem_upsert.1 hp with rfl | ⟨hp, -⟩
      · obtain ⟨hrow, -⟩ := hrow h
        exact ⟨hrow.permitType, hrow.zoneId, hrow.authorizingOfficerId⟩
      · have hp := h.constrained.permit p hp
        exact ⟨hp.permitType, hp.zoneId, hp.authorizingOfficerId⟩
    · rcases Table.mem_upsert.1 hp with rfl | ⟨hp, -⟩
      · exact (hrow h).2
      · exact h.permit p hp

theorem sound_assessment {row : RiskAssessment R Uuid} (hzone : (db.zones.get? row.zoneId).isSome) :
    Sound db (RiskPipeline.persist db row) where
  static := ⟨rfl, rfl, rfl, rfl, rfl⟩
  sensorReadings := .refl _
  permits := .refl _
  riskAssessments := .upsert _ _
  consistent h := by
    refine ⟨⟨h.constrained.adjacency, h.constrained.sensor, h.constrained.equipment,
      h.constrained.worker, fun r hr => ?_, fun p hp => ?_, fun a ha => ?_⟩, h.reading, h.permit⟩
    · have hr := h.constrained.reading r hr
      exact ⟨hr.gasType, hr.qualityFlag, hr.sensorId, hr.zoneId⟩
    · have hp := h.constrained.permit p hp
      exact ⟨hp.permitType, hp.zoneId, hp.authorizingOfficerId⟩
    · rcases Table.mem_upsert.1 ha with rfl | ⟨ha, -⟩
      · exact hzone
      · exact h.constrained.assessment a ha

end

/-! ## The writers -/

open Simulation Transaction

theorem SensorRepository.getByZoneAndGas_some {db : Db R Uuid} {zoneId : Uuid} {gasType : String}
    {sensor : Sensor R Uuid} (h : getByZoneAndGas db zoneId gasType = some sensor) :
    sensor ∈ db.sensors ∧ sensor.zoneId = zoneId ∧ sensor.gasType = gasType := by
  refine ⟨List.mem_of_find?_eq_some h, ?_⟩
  simpa using List.find?_some h

theorem PermitRepository.updateStatus_sound {T : Text R Uuid} {permitId : Uuid}
    {newStatus : String} : Across Sound (updateStatus (R := R) T permitId newStatus) := by
  intro db row db' h
  obtain ⟨permit, status, hpermit, -, rfl, rfl⟩ := updateStatus_ok h
  have hmem := (Table.get?_eq_some.1 hpermit).1
  refine sound_permit fun hdb => ⟨?_, hdb.permit permit hmem⟩
  have hrow := hdb.constrained.permit permit hmem
  exact ⟨hrow.permitType, hrow.zoneId, hrow.authorizingOfficerId⟩

namespace LiveIngestion

/-- What `ingest_reading` wrote: a reading of its sensor, under an id that was not taken. -/
theorem ingestReading_eq_ok {T : Text R Uuid} {readingId sensorId : Uuid} {value : R}
    {unit : Option String} {timestamp : DateTime} {qualityFlag : String} {db db' : Db R Uuid}
    {row : SensorReading R Uuid}
    (h : ingestReading T readingId sensorId value unit timestamp qualityFlag db = .ok (row, db')) :
    ∃ sensor ∈ db.sensors, sensor.sensorId = sensorId ∧ row.sensorId = sensorId ∧
      row.zoneId = sensor.zoneId ∧ row.gasType = sensor.gasType ∧ row.readingId = readingId ∧
      row.timestamp = timestamp.instant ∧ row.value = value ∧ row.Constrained db ∧
      db.sensorReadings.get? (readingId, timestamp.instant) = none ∧
      db' = { db with sensorReadings := db.sensorReadings.upsert row } := by
  rw [ingestReading, get_bind] at h
  cases hsensor : SensorRepository.get db sensorId with
  | none =>
    rw [hsensor] at h
    cases h
  | some sensor =>
    rw [hsensor] at h
    obtain ⟨hmem, hid⟩ := Table.get?_eq_some.1 hsensor
    dsimp only at h
    rw [SensorReadingRepository.createWithDefaultId, get_bind] at h
    obtain ⟨_, hfresh, h⟩ := lift_bind_eq_ok.1 h
    obtain ⟨row', hcheck, h⟩ := lift_bind_eq_ok.1 h
    cases h
    obtain ⟨unit, -, rfl, hrow⟩ := SensorReadingRepository.check_eq_ok.1 hcheck
    exact ⟨sensor, hmem, hid, hid, rfl, rfl, rfl, rfl, rfl, hrow,
      Option.isNone_iff_eq_none.1 (checkConstraint_ok.1 hfresh), rfl⟩

theorem ingestReading_sound {T : Text R Uuid} {readingId sensorId : Uuid} {value : R}
    {unit : Option String} {timestamp : DateTime} {qualityFlag : String} :
    Across Sound (ingestReading T readingId sensorId value unit timestamp qualityFlag) := by
  intro db row db' h
  obtain ⟨sensor, hmem, hid, hsensor, hzone, hgas, -, -, -, hrow, -, rfl⟩ := ingestReading_eq_ok h
  exact sound_reading hrow ⟨sensor, hmem, hid.trans hsensor.symm, hzone.symm, hgas.symm⟩

theorem ingestRows_sound {T : Text R Uuid} (rowIndex : ℕ) (rows : List (CsvRow × Uuid))
    (acc : CsvIngestResult) : Across Sound (ingestRows T rowIndex rows acc) := by
  induction rows generalizing rowIndex acc with
  | nil => exact closed_across.pure _
  | cons p rows ih =>
    refine closed_across.bind (Across.tryCatch ?_ fun e => ?_) fun acc => ih _ acc
    · refine across_lift_bind fun args _ => ?_
      exact closed_across.bind ingestReading_sound fun _ => closed_across.pure _
    · cases caught e with
      | none => exact fun _ _ _ h => by cases h
      | some text => exact closed_across.pure _

end LiveIngestion

variable [Field R] [LinearOrder R] {M : Math R} {T : Text R Uuid}

namespace SimulationRunner

variable {resolve : String → Result Uuid} {scenario : Scenario R}
  {readings : List (GeneratedReading R Uuid)}

omit [Field R] [LinearOrder R] in
theorem persistReading_sound {reading : GeneratedReading R Uuid} :
    Across Sound (persistReading resolve reading) := by
  intro db u db' h
  obtain ⟨p, hp, hfits, rfl⟩ := persistReading_eq_ok.1 ⟨u, h⟩
  obtain ⟨zoneId, -, hp⟩ := Except.bind_eq_ok.1 hp
  cases hsensor : SensorRepository.getByZoneAndGas db zoneId reading.gasType with
  | none =>
    rw [hsensor] at hp
    cases hp
  | some sensor =>
    rw [hsensor] at hp
    cases hp
    obtain ⟨hmem, hzone, hgas⟩ := SensorRepository.getByZoneAndGas_some hsensor
    exact sound_reading hfits ⟨sensor, hmem, rfl, hzone, hgas⟩

theorem persistPermit_sound {permit : GeneratedPermit Uuid}
    (htimes : permit.issuedAt.instant ≤ permit.expiresAt.instant) :
    Across Sound (persistPermit M T resolve scenario readings permit) := by
  intro db u db' h
  obtain ⟨args, hargs, hfits, rfl⟩ := persistPermit_eq_ok.1 ⟨u, h⟩
  obtain ⟨-, -, hissued, hexpires⟩ := permitArgs_permit hargs
  refine sound_permit fun _ => ⟨hfits, ?_⟩
  show args.issuedAt ≤ args.expiresAt
  rwa [hissued, hexpires]

variable [FloorRing R] [IsStrictOrderedRing R]

omit [DecidableEq Uuid] in
/-- A permit of a valid scenario expires after it is issued, or at that microsecond. -/
theorem generatePermits_times (hvalid : scenario.Valid) {permits : List (GeneratedPermit Uuid)}
    (h : generatePermits T scenario = .ok permits) {p : GeneratedPermit Uuid} (hp : p ∈ permits) :
    p.issuedAt.instant ≤ p.expiresAt.instant := by
  obtain ⟨start, -, -, rfl⟩ := generatePermits_eq_ok.1 h
  obtain ⟨event, hevent, rfl⟩ := List.mem_map.1 hp
  have hduration := timedeltaMinutes_nonneg (hvalid.permitEvent event hevent).durationMinutes.le
  exact le_add_of_nonneg_right hduration

theorem persistScenario_sound (hvalid : scenario.Valid) :
    Across Sound (persistScenario M T resolve scenario) := by
  refine across_lift_bind fun readings _ => ?_
  refine closed_across.bind (closed_across.mapM fun r _ => persistReading_sound) fun _ => ?_
  refine across_lift_bind fun permits hpermits => ?_
  exact closed_across.bind (closed_across.mapM fun p hp =>
    persistPermit_sound (generatePermits_times hvalid hpermits hp)) fun _ => closed_across.pure _

theorem runScenario_sound : Service.Across Sound (runScenario M T scenario) := by
  refine Service.across_lift_bind fun _ hvalid => ?_
  refine Service.across_transaction (across_get_bind fun db => across_lift_bind fun _ _ => ?_)
  exact closed_across.bind (persistScenario_sound (validateStructure_valid hvalid)) fun _ =>
    closed_across.pure _

end SimulationRunner

variable [FloorRing R] [IsStrictOrderedRing R]

namespace RiskPipeline

omit [FloorRing R] in
theorem tickRow_zone {zoneId : Uuid} {gasType : String} {simTime : DateTime} {tickId : ℕ}
    {cache : Scheduler.AgentCache R} {tierState : Tiering.TierState R} {db : Db R Uuid}
    {a : RiskAssessment R Uuid}
    (h : tickRow M T db zoneId gasType simTime tickId cache tierState = some a) :
    (db.zones.get? zoneId).isSome := by
  unfold tickRow at h
  split at h
  · assumption
  · cases h

omit [FloorRing R] in
theorem runZoneTick_sound (zoneId : Uuid) (gasType : String) (simTime : DateTime) (tickId : ℕ)
    (cache : Scheduler.AgentCache R) (tierState : Tiering.TierState R) :
    Service.Across Sound (runZoneTick M T zoneId gasType simTime tickId cache tierState) := by
  intro db
  rw [runZoneTick_effect]
  cases h : tickRow M T db zoneId gasType simTime tickId cache tierState with
  | none => exact Std.Refl.refl db
  | some a =>
    refine sound_assessment ?_
    rw [(tickRow_columns h).1]
    exact tickRow_zone h

end RiskPipeline

namespace ScenarioBuilder

variable {scenario : Scenario R}

omit [FloorRing R] in
theorem runTicks_sound {zoneId : Uuid} {gasType : String} (timestamps : List DateTime) (tickId : ℕ)
    (cache : Scheduler.AgentCache R) (tierState : Tiering.TierState R) :
    Service.Across Sound (runTicks M T zoneId gasType timestamps tickId cache tierState) := by
  induction timestamps generalizing tickId cache tierState with
  | nil => exact Service.closed_across.pure _
  | cons simTime timestamps ih =>
    refine Service.closed_across.bind (RiskPipeline.runZoneTick_sound _ _ _ _ _ _) fun result => ?_
    exact Service.closed_across.bind (ih _ _ _) fun _ => Service.closed_across.pure _

omit [FloorRing R] in
theorem runZones_sound {startTime : String} {readings : List (GeneratedReading R Uuid)} :
    Service.Across Sound (runZones M T startTime readings) := by
  refine Service.closed_across.bind (Service.across_lift _) fun pairs =>
    Service.closed_across.mapM fun group _ => ?_
  exact Service.closed_across.bind (runTicks_sound _ _ _ _) fun _ => Service.closed_across.pure _

theorem persistBuilderScenario_sound : Across Sound (persistBuilderScenario M T scenario) := by
  refine across_get_bind fun db => across_lift_bind fun errors herrors => ?_
  split
  · exact closed_across.pure _
  · rename_i hnil
    rw [not_not.1 hnil] at herrors
    have hvalid := validateStructure_valid (validateBuilderScenario_eq_nil.1 herrors).1
    exact closed_across.bind (SimulationRunner.persistScenario_sound hvalid) fun _ =>
      closed_across.pure _

theorem executeBuilderScenario_sound :
    Service.Across Sound (executeBuilderScenario M T scenario) := by
  refine Service.closed_across.bind (Service.closed_across.bind
    (Service.across_transaction persistBuilderScenario_sound) fun p => ?_) fun _ =>
      Service.closed_across.pure _
  dsimp only
  split
  · exact Service.closed_across.pure _
  · exact Service.closed_across.bind runZones_sound fun _ => Service.closed_across.pure _

end ScenarioBuilder

namespace Runtime

theorem Write.call_sound (w : Write R Uuid) : Service.Across Sound (w.call M T) := by
  cases w with
  | ingestReading =>
    exact Service.closed_across.bind (Service.across_transaction LiveIngestion.ingestReading_sound)
      fun _ => Service.closed_across.pure _
  | ingestCsvFile rows =>
    exact Service.closed_across.bind
      (Service.across_transaction (LiveIngestion.ingestRows_sound _ _ _)) fun _ =>
        Service.closed_across.pure _
  | runScenario => exact SimulationRunner.runScenario_sound
  | executeBuilderScenario =>
    exact Service.closed_across.bind ScenarioBuilder.executeBuilderScenario_sound fun _ =>
      Service.closed_across.pure _
  | updateStatus =>
    exact Service.closed_across.bind
      (Service.across_transaction PermitRepository.updateStatus_sound) fun _ =>
        Service.closed_across.pure _

theorem State.next_sound (s : State R Uuid) (a : Action R Uuid) : Sound s.db (s.next M T a).db := by
  cases a with
  | write w => exact w.call_sound s.db
  | tick thread zoneId gasType simTime tickId =>
    rw [State.next]
    split
    · exact Std.Refl.refl s.db
    · rename_i cache tierState _
      have h := RiskPipeline.runZoneTick_sound (M := M) (T := T) zoneId gasType simTime tickId cache
        tierState s.db
      split
      all_goals
        rename_i hrun
        rw [hrun] at h
        exact h

end Runtime
