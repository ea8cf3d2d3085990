import IndustrialSafety.LiveIngestion.Proof.Csv
import IndustrialSafety.Services.Proof.Baseline
import IndustrialSafety.Services.Proof.Completion
import IndustrialSafety.Services.Proof.Rerun
import IndustrialSafety.Services.Proof.Validate

/-!
# What the builder's validation leaves open

An accepted scenario runs to completion iff it also `Fulfils` what the validation does not check
(`execute_returns_iff`): the offset of its start, the times and types of its permits, the thresholds that
its baselines divide by, and what the zones it replays have stored.

* `sound_iff`: where the validation is sound.
* `losesNothing_iff`: where a run loses and repeats nothing.
-/

namespace ScenarioBuilder

open Py Simulation SimulationRunner RiskPipeline

variable {R Uuid : Type} [Field R] [LinearOrder R] [DecidableEq Uuid] {M : Math R} {T : Text R Uuid}
  {db : Db R Uuid} {scenario : Scenario R} {readings : List (GeneratedReading R Uuid)}
  {ps : List (PlacedReading R Uuid)} {args : List (PermitRepository.Args R Uuid)}

/-! ## The rows of an accepted scenario -/

omit [Field R] [LinearOrder R] in
/-- The stored permits that are not issued again, and the issued ones. -/
theorem mem_persisted_permits {p : Permit R Uuid} (h : p ∈ (persisted db ps args).permits) :
    (p ∈ db.permits ∧ ∀ a ∈ args, a.permitId ≠ p.permitId) ∨
      ∃ a ∈ args, ∃ existing, p = a.row existing := by
  rcases merging_permit.mem_foldl.1 h with h | ⟨a, ha, hp⟩
  · exact .inl h
  · exact .inr ⟨a, List.mem_reverse.1 (List.mem_of_find?_eq_some ha), _, hp⟩

section
variable [FloorRing R]

/-- The rows that a scenario persists satisfy the constraints of their tables. -/
theorem constrained_persisted (hdb : Constrained db)
    (h : Persists M T T.uuid scenario db readings ps args) : Constrained (persisted db ps args) := by
  refine ⟨hdb.adjacency, hdb.sensor, hdb.equipment, hdb.worker, fun r hr => ?_, fun p hp => ?_,
    hdb.assessment⟩
  · have hrow : r.Constrained db := by
      rcases merging_reading.mem_foldl.1 hr with ⟨hr, -⟩ | ⟨q, hq, hr⟩
      · exact hdb.reading r hr
      · have hkey : q.key = (r.readingId, r.timestamp) := by simpa using List.find?_some hq
        rw [hr, ← hkey]
        exact h.fits q (List.mem_reverse.1 (List.mem_of_find?_eq_some hq))
    exact ⟨hrow.gasType, hrow.qualityFlag, hrow.sensorId, hrow.zoneId⟩
  · have hrow : p.Constrained db := by
      rcases mem_persisted_permits hp with ⟨hp, -⟩ | ⟨a, ha, existing, rfl⟩
      · exact hdb.permit p hp
      · have hfits := fitsPermit_iff.1 (h.fitsPermit a ha)
        exact ⟨hfits.1, hfits.2.1, hfits.2.2⟩
    exact ⟨hrow.permitType, hrow.zoneId, hrow.authorizingOfficerId⟩

omit [Field R] [LinearOrder R] [FloorRing R] in
/-- The ticks of existing zones keep the constraints. -/
theorem constrained_ticked {db' : Db R Uuid} (hdb : Constrained db)
    (h : Ticked T (fun z => (db.zones.get? z).isSome) db db') : Constrained db' := by
  obtain ⟨as, rfl, has⟩ := h
  induction as generalizing db with
  | nil => exact hdb
  | cons a as ih =>
    rw [List.forall_mem_cons] at has
    suffices hnext : Constrained (persist db a) from ih hnext has.2
    refine ⟨hdb.adjacency, hdb.sensor, hdb.equipment, hdb.worker, fun r hr => ?_, fun p hp => ?_,
      fun b hb => ?_⟩
    · have hrow := hdb.reading r hr
      exact ⟨hrow.gasType, hrow.qualityFlag, hrow.sensorId, hrow.zoneId⟩
    · have hrow := hdb.permit p hp
      exact ⟨hrow.permitType, hrow.zoneId, hrow.authorizingOfficerId⟩
    · rcases Table.mem_upsert.1 hb with rfl | ⟨hb, -⟩
      · exact has.1.2
      · exact hdb.assessment b hb

/-! ## Persisting -/

/-- What the validation leaves open. -/
structure Fulfils (T : Text R Uuid) (db : Db R Uuid) (scenario : Scenario R) (start : DateTime)
    (readings : List (GeneratedReading R Uuid)) (ps : List (PlacedReading R Uuid)) : Prop where
  /-- A scenario with readings starts at a time with an offset. -/
  offset : readings ≠ [] → T.naive scenario.startTime = false
  dated : ∀ event ∈ scenario.permitEvents, event.Dated start
  permitType : ∀ p ∈ scenario.permits T start, p.permitType ∈ permitTypes
  /-- No baseline is computed with a threshold of zero. -/
  baseline : ∀ p ∈ scenario.permits T start, ∀ zoneId, T.uuidOfStr p.zoneKey = some zoneId →
    ∀ gasType ∈ resolveZoneGasType scenario p.zoneKey,
      ∀ sensor ∈ SensorRepository.getByZoneAndGas db zoneId gasType, sensor.alarmThreshold = 0 →
        zoneReadings readings p.zoneKey gasType p.issuedAt = []
  /-- The latest reading of a zone, once the scenario's are stored, is accepted. -/
  comparator : ∀ r ∈ readings, ∀ zoneId, T.uuidOfStr r.zoneKey = some zoneId →
    ComparatorAccepts (persisted db ps []) zoneId r.gasType none
  /-- The stored permits of a zone that the scenario does not issue again are readable. -/
  openPermits : ∀ r ∈ readings, ∀ zoneId, T.uuidOfStr r.zoneKey = some zoneId →
    ∀ row ∈ PermitRepository.listOpenByZone db zoneId,
      row.permitId ∉ (scenario.permits T start).map GeneratedPermit.permitId →
        ∃ record, ContextBuilders.toPermitRecord T row = .ok record

/-- What constrained tables give: the readings fit, and the statuses of their zones' equipment are
known. -/
structure Lawful (T : Text R Uuid) (db : Db R Uuid) (readings : List (GeneratedReading R Uuid))
    (ps : List (PlacedReading R Uuid)) : Prop where
  fits : ∀ p ∈ ps, p.Fits db
  equipment : ∀ r ∈ readings, ∀ zoneId, T.uuidOfStr r.zoneKey = some zoneId →
    ∀ e ∈ EquipmentRepository.listByZone db zoneId,
      e.isolationStatus ∈ EquipmentStatus.knownIsolationStatuses

omit [FloorRing R] in
/-- A baseline is computed unless a reading is divided by a threshold of zero, or its time compared with
the sensor's calibration has no offset. -/
theorem computeBaselineSnapshot_total_iff {zoneKey : String} {issuedAt : DateTime} {zoneId : Uuid}
    (hsensor : ∀ gasType ∈ resolveZoneGasType scenario zoneKey,
      (SensorRepository.getByZoneAndGas db zoneId gasType).isSome) :
    (∃ snapshot, computeBaselineSnapshot M T db zoneKey issuedAt scenario readings zoneId =
      .ok snapshot) ↔ ∀ gasType ∈ resolveZoneGasType scenario zoneKey,
        ∀ sensor ∈ SensorRepository.getByZoneAndGas db zoneId gasType,
          zoneReadings readings zoneKey gasType issuedAt ≠ [] → sensor.alarmThreshold ≠ 0 ∧
            ¬(T.naive scenario.startTime ∧ sensor.lastCalibratedAt.isSome) := by
  simp only [computeBaselineSnapshot_eq_ok]
  constructor
  · rintro ⟨_, risk, _, -, ⟨hnone, -⟩ | ⟨gasType, sensor, hgas, hsensor, hrisk, hoffset, -⟩⟩ gasType' hgas'
      sensor' hsensor' hne
    · cases hnone.symm.trans hgas'
    · cases hgas.symm.trans hgas'
      cases hsensor.symm.trans hsensor'
      refine ⟨?_, fun hnaive => hoffset ⟨hnaive.1, hne, hnaive.2⟩⟩
      rcases GasRisk.calculateRisk_ok.1 hrisk with ⟨hnone, -⟩ | ⟨-, -, hthreshold, -⟩
      · exact absurd (List.getLast?_eq_none_iff.1 hnone) hne
      · exact hthreshold
  · intro h
    cases hgas : resolveZoneGasType scenario zoneKey with
    | none => exact ⟨_, _, _, rfl, .inl ⟨rfl, rfl, rfl⟩⟩
    | some gasType =>
      obtain ⟨sensor, hsensor⟩ := Option.isSome_iff_exists.1 (hsensor gasType hgas)
      obtain ⟨risk, hrisk⟩ : ∃ risk, GasRisk.calculateRisk M
          (zoneReadings readings zoneKey gasType issuedAt) sensor.alarmThreshold (zoneFloor db zoneId)
          issuedAt.instant (GasRisk.GasRiskConfig.default M) = .ok risk := by
        by_cases hnil : zoneReadings readings zoneKey gasType issuedAt = []
        · rw [hnil]
          exact ⟨_, GasRisk.calculateRisk_ok.2 (.inl ⟨rfl, rfl⟩)⟩
        · exact GasRisk.calculateRisk_total (h gasType hgas sensor hsensor hnil).1
      exact ⟨_, risk, _, rfl, .inr ⟨gasType, sensor, rfl, hsensor, hrisk, fun hnaive =>
        (h gasType hgas sensor hsensor hnaive.2.1).2 ⟨hnaive.1, hnaive.2.2⟩, rfl⟩⟩

omit [Field R] [LinearOrder R] [FloorRing R] in
theorem placeReading_eq_ok {reading : GeneratedReading R Uuid} {p : PlacedReading R Uuid} :
    placeReading T.uuid db reading = .ok p ↔ p.reading = reading ∧
      T.uuidOfStr reading.zoneKey = some p.zoneId ∧
        ∃ sensor, SensorRepository.getByZoneAndGas db p.zoneId reading.gasType = some sensor ∧
          p.sensorId = sensor.sensorId := by
  unfold placeReading
  rw [Except.bind_eq_ok]
  constructor
  · rintro ⟨zoneId, hzone, h⟩
    cases hsensor : SensorRepository.getByZoneAndGas db zoneId reading.gasType with
    | none =>
      rw [hsensor] at h
      cases h
    | some sensor =>
      rw [hsensor] at h
      cases h
      exact ⟨rfl, T.uuid_eq_ok.1 hzone, sensor, hsensor, rfl⟩
  · obtain ⟨r, zoneId, sensorId⟩ := p
    rintro ⟨rfl, hzone, sensor, hsensor, rfl⟩
    refine ⟨zoneId, T.uuid_eq_ok.2 hzone, ?_⟩
    rw [hsensor]
    rfl

variable {start : DateTime}

/-- The zone and the sensor of a reading of an accepted scenario. -/
theorem reading_references (hvalid : validateBuilderScenario M T db scenario = .ok [])
    (hr : generateSensorReadings M T scenario = .ok readings) {r : GeneratedReading R Uuid}
    (h : r ∈ readings) : ∃ zoneId, T.uuidOfStr r.zoneKey = some zoneId ∧
      (ZoneRepository.get db zoneId).isSome ∧
        (SensorRepository.getByZoneAndGas db zoneId r.gasType).isSome := by
  obtain ⟨-, hreferences, -⟩ := validateBuilderScenario_eq_nil.1 hvalid
  obtain ⟨event, hevent, hzone, hgas⟩ := generated_event hr h
  rw [hzone, hgas]
  exact sensorEventErrors_eq_nil.1 (hreferences.sensorEvent event hevent)

/-- The readings of an accepted scenario are placed. -/
theorem placed_total (hvalid : validateBuilderScenario M T db scenario = .ok [])
    (hr : generateSensorReadings M T scenario = .ok readings) :
    ∃ ps, readings.mapM (placeReading T.uuid db) = .ok ps := by
  refine Except.mapM_total fun r h => ?_
  obtain ⟨zoneId, hzone, -, hsensor⟩ := reading_references hvalid hr h
  obtain ⟨sensor, hsensor⟩ := Option.isSome_iff_exists.1 hsensor
  exact ⟨⟨r, zoneId, sensor.sensorId⟩, placeReading_eq_ok.2 ⟨rfl, hzone, sensor, hsensor, rfl⟩⟩

/-- Constrained tables leave nothing of it open. -/
theorem lawful_of_constrained (hdb : Constrained db)
    (hvalid : validateBuilderScenario M T db scenario = .ok [])
    (hr : generateSensorReadings M T scenario = .ok readings)
    (hps : readings.mapM (placeReading T.uuid db) = .ok ps) : Lawful T db readings ps := by
  refine ⟨fun p hp => ?_, fun _ _ _ _ e he => (hdb.equipment e (List.mem_filter.1 he).1).1⟩
  obtain ⟨r, h, hplaced⟩ := Except.mem_of_mapM_eq_ok hps hp
  obtain ⟨rfl, hzone, sensor, hsensor, hid⟩ := placeReading_eq_ok.1 hplaced
  obtain ⟨zoneId, hzone', hexists, -⟩ := reading_references hvalid hr h
  cases hzone.symm.trans hzone'
  have hmem := List.mem_of_find?_eq_some hsensor
  have hcolumns : sensor.zoneId = p.zoneId ∧ sensor.gasType = p.reading.gasType := by
    simpa using List.find?_some hsensor
  refine ⟨?_, ?_, ?_, hexists⟩
  · show p.reading.gasType ∈ gasTypes
    rw [← hcolumns.2]
    exact (hdb.sensor sensor hmem).1
  · cases hexisting : db.sensorReadings.get? p.key with
    | none => exact .head _
    | some existing => exact (hdb.reading existing (Table.get?_eq_some.1 hexisting).1).qualityFlag
  · show (db.sensors.get? p.sensorId).isSome
    rw [hid]
    exact Option.isSome_iff_exists.2 ⟨sensor, Table.get?_eq_some.2 ⟨hmem, rfl⟩⟩

/-- The zone and the officer of a permit of an accepted scenario. -/
theorem permit_references (hvalid : validateBuilderScenario M T db scenario = .ok [])
    {p : GeneratedPermit Uuid} (h : p ∈ scenario.permits T start) :
    (∃ zoneId, T.uuidOfStr p.zoneKey = some zoneId ∧ (ZoneRepository.get db zoneId).isSome) ∧
      ∃ officerId, T.uuidOfStr p.authorizingOfficerKey = some officerId ∧
        (WorkerRepository.get db officerId).isSome := by
  obtain ⟨-, hreferences, -⟩ := validateBuilderScenario_eq_nil.1 hvalid
  obtain ⟨event, hevent, rfl⟩ := List.mem_map.1 h
  refine ⟨permitZoneErrors_eq_nil.1 (hreferences.permitZone event hevent), ?_⟩
  obtain ⟨officerId, officer, hid, hget, -⟩ :=
    permitOfficerErrors_eq_nil.1 (hreferences.permitOfficer event hevent)
  exact ⟨officerId, hid, Option.isSome_iff_exists.2 ⟨officer, hget⟩⟩

/-- The gas of a zone has a sensor there. -/
theorem zoneGas_sensor (hvalid : validateBuilderScenario M T db scenario = .ok []) {zoneKey : String}
    {zoneId : Uuid} (hzone : T.uuidOfStr zoneKey = some zoneId) :
    ∀ gasType ∈ resolveZoneGasType scenario zoneKey,
      (SensorRepository.getByZoneAndGas db zoneId gasType).isSome := by
  intro gasType hgas
  obtain ⟨event, hevent, rfl⟩ := Option.map_eq_some_iff.1 hgas
  have hkey : event.zoneKey = zoneKey := by simpa using List.find?_some hevent
  refine Accepted.sensor (.builder hvalid) (List.mem_of_find?_eq_some hevent) (T.uuid_eq_ok.2 ?_)
  rw [hkey, hzone]

/-- The baseline of a permit of an accepted scenario is computed. -/
def Baselined (T : Text R Uuid) (db : Db R Uuid) (scenario : Scenario R)
    (readings : List (GeneratedReading R Uuid)) (p : GeneratedPermit Uuid) : Prop :=
  ∀ zoneId, T.uuidOfStr p.zoneKey = some zoneId → ∀ gasType ∈ resolveZoneGasType scenario p.zoneKey,
    ∀ sensor ∈ SensorRepository.getByZoneAndGas db zoneId gasType,
      zoneReadings readings p.zoneKey gasType p.issuedAt ≠ [] → sensor.alarmThreshold ≠ 0 ∧
        ¬(T.naive scenario.startTime ∧ sensor.lastCalibratedAt.isSome)

omit [LinearOrder R] [FloorRing R] in
/-- Where the readings' start has an offset, only the thresholds are left. -/
theorem baselined_iff (hoffset : readings ≠ [] → T.naive scenario.startTime = false)
    {p : GeneratedPermit Uuid} : Baselined T db scenario readings p ↔
      ∀ zoneId, T.uuidOfStr p.zoneKey = some zoneId → ∀ gasType ∈ resolveZoneGasType scenario p.zoneKey,
        ∀ sensor ∈ SensorRepository.getByZoneAndGas db zoneId gasType, sensor.alarmThreshold = 0 →
          zoneReadings readings p.zoneKey gasType p.issuedAt = [] := by
  constructor
  · intro h zoneId hzone gasType hgas sensor hsensor hzero
    by_contra hne
    exact (h zoneId hzone gasType hgas sensor hsensor hne).1 hzero
  · intro h zoneId hzone gasType hgas sensor hsensor hne
    have hreadings : readings ≠ [] := by
      rintro rfl
      exact hne rfl
    refine ⟨fun hzero => hne (h zoneId hzone gasType hgas sensor hsensor hzero), fun hnaive => ?_⟩
    rw [hoffset hreadings] at hnaive
    cases hnaive.1

/-- The row of a permit of an accepted scenario is computed where its baseline is. -/
theorem permitArgs_total_iff (hvalid : validateBuilderScenario M T db scenario = .ok [])
    {p : GeneratedPermit Uuid} (hmem : p ∈ scenario.permits T start) :
    (∃ a, permitArgs M T T.uuid scenario readings db p = .ok a) ↔ Baselined T db scenario readings p := by
  obtain ⟨⟨zoneId, hzone, -⟩, officerId, hofficer, -⟩ := permit_references hvalid hmem
  constructor
  · rintro ⟨a, hok⟩ zoneId' hzone'
    cases hzone.symm.trans hzone'
    obtain ⟨z, hz, hrest⟩ := Except.bind_eq_ok.1 hok
    cases (T.uuid_eq_ok.2 hzone).symm.trans hz
    obtain ⟨snapshot, hsnapshot, -⟩ := Except.bind_eq_ok.1 hrest
    exact (computeBaselineSnapshot_total_iff (zoneGas_sensor hvalid hzone)).1 ⟨snapshot, hsnapshot⟩
  · intro hp
    refine Except.bind_total ⟨zoneId, T.uuid_eq_ok.2 hzone⟩ fun z hz => ?_
    cases (T.uuid_eq_ok.2 hzone).symm.trans hz
    refine Except.bind_total ?_ fun _ _ =>
      Except.bind_total ⟨officerId, T.uuid_eq_ok.2 hofficer⟩ fun _ _ => ⟨_, rfl⟩
    exact (computeBaselineSnapshot_total_iff (zoneGas_sensor hvalid hzone)).2 (hp zoneId hzone)

/-- The row of a permit of an accepted scenario fits iff its type is one of the table's. -/
theorem fitsPermit_accepted_iff (hvalid : validateBuilderScenario M T db scenario = .ok [])
    {p : GeneratedPermit Uuid} (hmem : p ∈ scenario.permits T start) {a : PermitRepository.Args R Uuid}
    (hok : permitArgs M T T.uuid scenario readings db p = .ok a) :
    FitsPermit a db ↔ p.permitType ∈ permitTypes := by
  obtain ⟨⟨zoneId, hzone, hexists⟩, officerId, hofficer, hworker⟩ := permit_references hvalid hmem
  obtain ⟨zoneId', hzone', hok⟩ := Except.bind_eq_ok.1 hok
  obtain ⟨_, -, hok⟩ := Except.bind_eq_ok.1 hok
  obtain ⟨officerId', hofficer', hok⟩ := Except.bind_eq_ok.1 hok
  cases (T.uuid_eq_ok.2 hzone).symm.trans hzone'
  cases (T.uuid_eq_ok.2 hofficer).symm.trans hofficer'
  cases hok
  exact fitsPermit_iff.trans ⟨fun h => h.1, fun h => ⟨h, hexists, hworker⟩⟩

/-- **When the rows of an accepted scenario are persisted.** -/
theorem persists_iff (hvalid : validateBuilderScenario M T db scenario = .ok [])
    (hstart : T.datetime scenario.startTime = .ok start)
    (hr : generateSensorReadings M T scenario = .ok readings)
    (hps : readings.mapM (placeReading T.uuid db) = .ok ps) :
    (∃ args, Persists M T T.uuid scenario db readings ps args) ↔
      (∀ p ∈ ps, p.Fits db) ∧ (∀ event ∈ scenario.permitEvents, event.Dated start) ∧
        ∀ p ∈ scenario.permits T start,
          p.permitType ∈ permitTypes ∧ Baselined T db scenario readings p := by
  constructor
  · rintro ⟨args, h⟩
    obtain ⟨permits, hp, hargs⟩ := h.permits
    obtain ⟨_, hstart', hdated, rfl⟩ := generatePermits_eq_ok.1 hp
    cases hstart.symm.trans hstart'
    have hplaced := h.placed
    cases hps.symm.trans hplaced
    refine ⟨h.fits, hdated, fun p hmem => ?_⟩
    obtain ⟨a, ha, hok⟩ := (Except.mapM_eq_ok.1 hargs).exists_of_mem_left hmem
    exact ⟨(fitsPermit_accepted_iff hvalid hmem hok).1 (h.fitsPermit a ha),
      (permitArgs_total_iff hvalid hmem).1 ⟨a, hok⟩⟩
  · rintro ⟨hfits, hdated, hpermits⟩
    have hp : generatePermits T scenario = .ok (scenario.permits T start) :=
      generatePermits_eq_ok.2 ⟨start, hstart, hdated, rfl⟩
    obtain ⟨args, hargs⟩ : ∃ args, (scenario.permits T start).mapM
        (permitArgs M T T.uuid scenario readings db) = .ok args :=
      Except.mapM_total fun p hmem => (permitArgs_total_iff hvalid hmem).2 (hpermits p hmem).2
    refine ⟨args, hr, hps, hfits, ⟨_, hp, hargs⟩, fun a ha => ?_⟩
    obtain ⟨p, hmem, hok⟩ := Except.mem_of_mapM_eq_ok hargs ha
    exact (fitsPermit_accepted_iff hvalid hmem hok).2 (hpermits p hmem).1

/-! ## Running -/

omit [FloorRing R] in
/-- An issued permit is readable, whatever row it replaces. -/
theorem issued_readable {p : GeneratedPermit Uuid} {a : PermitRepository.Args R Uuid}
    (h : permitArgs M T T.uuid scenario readings db p = .ok a) (existing : Option (Permit R Uuid)) :
    ∃ record, ContextBuilders.toPermitRecord T (a.row existing) = .ok record := by
  obtain ⟨zoneId, -, h⟩ := Except.bind_eq_ok.1 h
  obtain ⟨snapshot, hsnapshot, h⟩ := Except.bind_eq_ok.1 h
  obtain ⟨officerId, -, h⟩ := Except.bind_eq_ok.1 h
  cases h
  obtain ⟨risk, confidence, rfl, -⟩ := computeBaselineSnapshot_eq_ok.1 hsnapshot
  refine Except.bind_total ⟨⟨1, 1, risk, confidence, p.issuedAt⟩, ?_⟩ fun _ _ => ⟨_, rfl⟩
  simp [PermitRepository.Args.row, ContextBuilders.parseBaselineSnapshot, ContextBuilders.requireKey,
    Text.datetime, T.fromisoformat_isoformat]

/-- Of a zone's permits those count that were stored before and are not issued again. -/
theorem operable_iff (h : Persists M T T.uuid scenario db readings ps args)
    (hstart : T.datetime scenario.startTime = .ok start) {zoneId : Uuid} {gasType : String} :
    Operable T (persisted db ps args) zoneId gasType ↔
      ComparatorAccepts (persisted db ps []) zoneId gasType none ∧
        (∀ row ∈ PermitRepository.listOpenByZone db zoneId,
          row.permitId ∉ (scenario.permits T start).map GeneratedPermit.permitId →
            ∃ record, ContextBuilders.toPermitRecord T row = .ok record) ∧
          ∀ e ∈ EquipmentRepository.listByZone db zoneId,
            e.isolationStatus ∈ EquipmentStatus.knownIsolationStatuses := by
  obtain ⟨permits, hp, hargs⟩ := h.permits
  obtain ⟨_, hstart', -, rfl⟩ := generatePermits_eq_ok.1 hp
  cases hstart.symm.trans hstart'
  constructor
  · rintro ⟨hcomparator, ⟨records, hrecords⟩, hequipment⟩
    refine ⟨hcomparator, fun row hrow hissued => ?_, hequipment⟩
    obtain ⟨hmem, hopen⟩ := List.mem_filter.1 hrow
    have hstored : row ∈ (persisted db ps args).permits := by
      refine merging_permit.mem_foldl.2 (.inl ⟨hmem, fun a ha hid => hissued ?_⟩)
      obtain ⟨p, hmem, hok⟩ := Except.mem_of_mapM_eq_ok hargs ha
      exact List.mem_map.2 ⟨p, hmem, (permitArgs_permit hok).1.symm.trans hid⟩
    obtain ⟨record, -, hrecord⟩ := (Except.mapM_eq_ok.1 hrecords).exists_of_mem_left
      (List.mem_filter.2 ⟨hstored, hopen⟩)
    exact ⟨record, hrecord⟩
  · rintro ⟨hcomparator, hreadable, hequipment⟩
    refine ⟨hcomparator, Except.mapM_total fun row hrow => ?_, hequipment⟩
    obtain ⟨hmem, hopen⟩ := List.mem_filter.1 hrow
    rcases mem_persisted_permits hmem with ⟨hstored, hnew⟩ | ⟨a, ha, existing, rfl⟩
    · refine hreadable row (List.mem_filter.2 ⟨hstored, hopen⟩) fun hissued => ?_
      obtain ⟨p, hmem, hid⟩ := List.mem_map.1 hissued
      obtain ⟨a, ha, hok⟩ := (Except.mapM_eq_ok.1 hargs).exists_of_mem_left hmem
      exact hnew a ha ((permitArgs_permit hok).1.trans hid)
    · obtain ⟨p, -, hok⟩ := Except.mem_of_mapM_eq_ok hargs ha
      exact issued_readable hok existing

theorem monitored_persisted (hvalid : validateBuilderScenario M T db scenario = .ok [])
    (hr : generateSensorReadings M T scenario = .ok readings) {r : GeneratedReading R Uuid}
    (h : r ∈ readings) {zoneId : Uuid} (hzone : T.uuidOfStr r.zoneKey = some zoneId) :
    Monitored (persisted db ps args) zoneId r.gasType := by
  obtain ⟨zoneId', hzone', hexists, hsensor⟩ := reading_references hvalid hr h
  cases hzone.symm.trans hzone'
  exact ⟨hexists, hsensor⟩

omit [Field R] [LinearOrder R] [FloorRing R] in
/-- The groups of a run: their zones and gases are those of the readings. -/
theorem group_reading {pairs : List ((Uuid × String) × DateTime)}
    (hpairs : zonePairs T scenario.startTime readings = .ok pairs)
    {g : (Uuid × String) × List DateTime} (hg : g ∈ Group.group pairs) :
    ∃ r ∈ readings, T.uuidOfStr r.zoneKey = some g.1.1 ∧ r.gasType = g.1.2 := by
  obtain ⟨p, hp, hkey⟩ := List.mem_map.1 (Group.mem_group_keys.1 (List.mem_map_of_mem hg))
  obtain ⟨r, hr, hzone, hgas, -⟩ := mem_zonePairs hpairs hp
  rw [← hkey]
  exact ⟨r, hr, hzone, hgas⟩

omit [Field R] [LinearOrder R] [FloorRing R] in
theorem reading_group {pairs : List ((Uuid × String) × DateTime)}
    (hpairs : zonePairs T scenario.startTime readings = .ok pairs) {r : GeneratedReading R Uuid}
    (hr : r ∈ readings) {zoneId : Uuid} (hzone : T.uuidOfStr r.zoneKey = some zoneId) :
    ∃ g ∈ Group.group pairs, g.1 = (zoneId, r.gasType) := by
  obtain ⟨p, hp, hz, hgas, -⟩ := (zonePairs_eq_ok.1 hpairs).2.exists_of_mem_left hr
  cases (T.uuid_eq_ok.2 hzone).symm.trans hz
  obtain ⟨g, hg, hkey⟩ := List.mem_map.1 (Group.mem_group_keys.2 (List.mem_map_of_mem hp))
  exact ⟨g, hg, hkey.trans (Prod.ext rfl hgas.symm)⟩

/-! ## Soundness -/

variable [IsStrictOrderedRing R]

/-- The validation finds no error, and its dry run keeps every clock between the years 1 and 9999: past
them it raises. -/
structure Accepts (M : Math R) (T : Text R Uuid) (db : Db R Uuid) (scenario : Scenario R) : Prop where
  valid : validateBuilderScenario M T db scenario = .ok []
  clocked : ∀ start, T.datetime scenario.startTime = .ok start →
    ∀ event ∈ scenario.sensorEvents, event.Clocked start

/-- An accepted scenario runs to completion and leaves constrained tables; a rejected one changes nothing
and returns its errors. -/
structure Sound (M : Math R) (T : Text R Uuid) (db : Db R Uuid) (scenario : Scenario R) : Prop where
  completes : Accepts M T db scenario → ∃ result db',
    executeBuilderScenario M T scenario db = (.ok result, db') ∧ result.errors = [] ∧ Constrained db'
  rejects : ∀ errors, validateBuilderScenario M T db scenario = .ok errors → errors ≠ [] →
    executeBuilderScenario M T scenario db = (.ok ⟨errors, none, none, []⟩, db)

/-- A rejected scenario. -/
theorem execute_rejected {errors : List String}
    (hvalid : validateBuilderScenario M T db scenario = .ok errors) (herrors : errors ≠ []) :
    executeBuilderScenario M T scenario db = (.ok ⟨errors, none, none, []⟩, db) := by
  exact execute_refused (persistBuilderScenario_eq_ok.2 (.inl ⟨hvalid, herrors, rfl, rfl⟩)) herrors

/-- An accepted scenario returns iff its rows are persisted and its groups return. -/
theorem execute_accepted (hvalid : validateBuilderScenario M T db scenario = .ok [])
    {result : ScenarioExecutionResult R Uuid} {db' : Db R Uuid} :
    executeBuilderScenario M T scenario db = (.ok result, db') ↔
      ∃ readings ps args pairs runs, Persists M T T.uuid scenario db readings ps args ∧
        zonePairs T scenario.startTime readings = .ok pairs ∧
          (Group.group pairs).mapM (runZone M T) (persisted db ps args) = (.ok runs, db') ∧
            result = report ([], runs) := by
  constructor
  · intro h
    rcases hpersist : persistBuilderScenario M T scenario db with e | ⟨⟨errors, readings⟩, d⟩
    · rw [execute_unpersisted hpersist] at h
      cases h
    · rcases persistBuilderScenario_eq_ok.1 hpersist with ⟨herrors, hne, -⟩ | ⟨-, rfl, hscenario⟩
      · cases hvalid.symm.trans herrors
        exact absurd rfl hne
      · obtain ⟨ps, args, hpersists, rfl⟩ := persistScenario_eq_ok.1 hscenario
        rw [execute_persisted hpersist] at h
        rcases hrun : replay M T scenario.startTime readings (persisted db ps args) with ⟨e | out, d⟩ <;>
          rw [hrun] at h <;> cases h
        obtain ⟨pairs, runs, hpairs, hruns, rfl⟩ := replay_eq_ok.1 hrun
        exact ⟨readings, ps, args, pairs, runs, hpersists, hpairs, hruns, rfl⟩
  · rintro ⟨readings, ps, args, pairs, runs, hpersists, hpairs, hruns, rfl⟩
    have hpersist := persistBuilderScenario_eq_ok.2
      (.inr ⟨hvalid, rfl, persistScenario_eq_ok.2 ⟨ps, args, hpersists, rfl⟩⟩)
    rw [execute_persisted hpersist, replay_eq_ok.2 ⟨pairs, runs, hpairs, hruns, rfl⟩]
    rfl

/-- A scenario that runs to completion fulfils what its validation leaves open. -/
theorem fulfils_of_executed (hvalid : validateBuilderScenario M T db scenario = .ok [])
    (hstart : T.datetime scenario.startTime = .ok start)
    (hr : generateSensorReadings M T scenario = .ok readings)
    (hps : readings.mapM (placeReading T.uuid db) = .ok ps)
    {result : ScenarioExecutionResult R Uuid} {db' : Db R Uuid}
    (hrun : executeBuilderScenario M T scenario db = (.ok result, db')) :
    Lawful T db readings ps ∧ Fulfils T db scenario start readings ps := by
  obtain ⟨readings', ps', args, pairs, runs, hpersists, hpairs, hruns, -⟩ :=
    (execute_accepted hvalid).1 hrun
  cases hr.symm.trans hpersists.generated
  cases hps.symm.trans hpersists.placed
  obtain ⟨hfits, hdated, hpermits⟩ := (persists_iff hvalid hstart hr hps).1 ⟨args, hpersists⟩
  have hmonitored : ∀ g ∈ Group.group pairs, Monitored (persisted db ps args) g.1.1 g.1.2 := by
    intro g hg
    obtain ⟨r, hmem, hzone, hgas⟩ := group_reading hpairs hg
    exact hgas ▸ monitored_persisted hvalid hr hmem hzone
  have hoperable := (runGroups_returns_iff (M := M) (T := T) Group.group_ne_nil hmonitored).1
    ⟨runs, db', hruns⟩
  have hreading : ∀ r ∈ readings, ∀ zoneId, T.uuidOfStr r.zoneKey = some zoneId →
      Operable T (persisted db ps args) zoneId r.gasType := by
    intro r hmem zoneId hzone
    obtain ⟨g, hg, hkey⟩ := reading_group hpairs hmem hzone
    have hop := hoperable g hg
    rwa [hkey] at hop
  have hopen := fun r hmem zoneId hzone =>
    (operable_iff hpersists hstart).1 (hreading r hmem zoneId hzone)
  have hoffset := (zonePairs_eq_ok.1 hpairs).1
  exact ⟨⟨hfits, fun r hmem zoneId hzone => (hopen r hmem zoneId hzone).2.2⟩,
    ⟨hoffset, hdated, fun p hp => (hpermits p hp).1,
      fun p hp => (baselined_iff hoffset).1 (hpermits p hp).2,
      fun r hmem zoneId hzone => (hopen r hmem zoneId hzone).1,
      fun r hmem zoneId hzone => (hopen r hmem zoneId hzone).2.1⟩⟩

/-- A scenario that fulfils what its validation leaves open runs to completion. -/
theorem executes_of_fulfils (hvalid : validateBuilderScenario M T db scenario = .ok [])
    (hstart : T.datetime scenario.startTime = .ok start)
    (hr : generateSensorReadings M T scenario = .ok readings)
    (hps : readings.mapM (placeReading T.uuid db) = .ok ps) (hlawful : Lawful T db readings ps)
    (h : Fulfils T db scenario start readings ps) :
    ∃ result db', executeBuilderScenario M T scenario db = (.ok result, db') := by
  obtain ⟨args, hpersists⟩ := (persists_iff (M := M) hvalid hstart hr hps).2
    ⟨hlawful.fits, h.dated, fun p hp => ⟨h.permitType p hp, (baselined_iff h.offset).2 (h.baseline p hp)⟩⟩
  obtain ⟨pairs, hpairs⟩ := zonePairs_total_iff.2 ⟨h.offset, fun r hmem => by
    obtain ⟨zoneId, hzone, -⟩ := reading_references hvalid hr hmem
    exact ⟨zoneId, T.uuid_eq_ok.2 hzone⟩⟩
  have hgroup : ∀ g ∈ Group.group pairs, Monitored (persisted db ps args) g.1.1 g.1.2 ∧
      Operable T (persisted db ps args) g.1.1 g.1.2 := by
    intro g hg
    obtain ⟨r, hmem, hzone, hgas⟩ := group_reading hpairs hg
    rw [← hgas]
    exact ⟨monitored_persisted hvalid hr hmem hzone, (operable_iff hpersists hstart).2
      ⟨h.comparator r hmem _ hzone, h.openPermits r hmem _ hzone, hlawful.equipment r hmem _ hzone⟩⟩
  obtain ⟨runs, db', hruns⟩ := (runGroups_returns_iff (M := M) Group.group_ne_nil
    fun g hg => (hgroup g hg).1).2 fun g hg => (hgroup g hg).2
  exact ⟨report ([], runs), db', (execute_accepted hvalid).2
    ⟨readings, ps, args, pairs, runs, hpersists, hpairs, hruns, rfl⟩⟩

/-- **When an accepted scenario runs to completion.** -/
theorem execute_returns_iff (hvalid : validateBuilderScenario M T db scenario = .ok [])
    (hstart : T.datetime scenario.startTime = .ok start)
    (hr : generateSensorReadings M T scenario = .ok readings)
    (hps : readings.mapM (placeReading T.uuid db) = .ok ps) :
    (∃ result db', executeBuilderScenario M T scenario db = (.ok result, db')) ↔
      Lawful T db readings ps ∧ Fulfils T db scenario start readings ps := by
  constructor
  · rintro ⟨result, db', hrun⟩
    exact fulfils_of_executed hvalid hstart hr hps hrun
  · rintro ⟨hlawful, hfulfils⟩
    exact executes_of_fulfils hvalid hstart hr hps hlawful hfulfils

/-- A run of an accepted scenario leaves constrained tables. -/
theorem constrained_executed (hdb : Constrained db)
    (hvalid : validateBuilderScenario M T db scenario = .ok [])
    {result : ScenarioExecutionResult R Uuid} {db' : Db R Uuid}
    (h : executeBuilderScenario M T scenario db = (.ok result, db')) :
    result.errors = [] ∧ Constrained db' := by
  obtain ⟨readings, ps, args, pairs, runs, hpersists, hpairs, hruns, rfl⟩ :=
    (execute_accepted hvalid).1 h
  have hzone : ∀ g ∈ Group.group pairs, ((persisted db ps args).zones.get? g.1.1).isSome := by
    intro g hg
    obtain ⟨r, hmem, hzone, -⟩ := group_reading hpairs hg
    exact (monitored_persisted hvalid hpersists.generated hmem hzone).zone
  have hticked : Ticked T (fun z => ((persisted db ps args).zones.get? z).isSome)
      (persisted db ps args) ((Group.group pairs).mapM (runZone M T) (persisted db ps args)).2 :=
    runGroups_ticked hzone _
  rw [hruns] at hticked
  exact ⟨rfl, constrained_ticked (constrained_persisted hdb hpersists) hticked⟩

omit [IsStrictOrderedRing R] in
/-- The readings of an accepted scenario, and where they are placed. -/
theorem accepted_generated (hvalid : validateBuilderScenario M T db scenario = .ok []) :
    ∃ start readings ps, T.datetime scenario.startTime = .ok start ∧
      generateSensorReadings M T scenario = .ok readings ∧
        readings.mapM (placeReading T.uuid db) = .ok ps := by
  obtain ⟨-, -, readings, hr, -⟩ := validateBuilderScenario_eq_nil.1 hvalid
  obtain ⟨start, hstart, -⟩ := Except.bind_eq_ok.1 hr
  obtain ⟨ps, hps⟩ := placed_total hvalid hr
  exact ⟨start, readings, ps, hstart, hr, hps⟩

/-- **When the validation is sound**: where it accepts, the scenario fulfils what it leaves open. -/
theorem sound_iff (hdb : Constrained db) : Sound M T db scenario ↔
    (Accepts M T db scenario → ∀ start readings ps, T.datetime scenario.startTime = .ok start →
      generateSensorReadings M T scenario = .ok readings →
        readings.mapM (placeReading T.uuid db) = .ok ps →
          Fulfils T db scenario start readings ps) := by
  constructor
  · intro hsound haccepts start readings ps hstart hr hps
    obtain ⟨result, db', hrun, -⟩ := hsound.completes haccepts
    exact ((execute_returns_iff haccepts.valid hstart hr hps).1 ⟨result, db', hrun⟩).2
  · refine fun hfulfils => ⟨fun haccepts => ?_, fun errors => execute_rejected⟩
    have hvalid := haccepts.valid
    obtain ⟨start, readings, ps, hstart, hr, hps⟩ := accepted_generated hvalid
    obtain ⟨result, db', hrun⟩ := (execute_returns_iff hvalid hstart hr hps).2
      ⟨lawful_of_constrained hdb hvalid hr hps, hfulfils haccepts start readings ps hstart hr hps⟩
    exact ⟨result, db', hrun, constrained_executed hdb hvalid hrun⟩

/-! ## Nothing lost, nothing repeated -/

/-- The run of a scenario with readings returns, and a run that returns has lost and repeated nothing. -/
structure LosesNothing (M : Math R) (T : Text R Uuid) (db : Db R Uuid) (scenario : Scenario R)
    (readings : List (GeneratedReading R Uuid)) : Prop where
  returns : readings ≠ [] →
    ∃ result db', executeBuilderScenario M T scenario db = (.ok result, db')
  noneLost : ∀ result db', executeBuilderScenario M T scenario db = (.ok result, db') → ∃ runs,
    executeRuns M T scenario db = (.ok ([], runs), db') ∧
      NoneLost T readings runs result.zoneResults db'

/-- **The run of an accepted scenario loses and repeats nothing** iff no two of its readings share a zone
and an instant and, with a reading, it runs to completion. -/
theorem losesNothing_iff (hT : Function.Injective T.resolveId)
    (hvalid : validateBuilderScenario M T db scenario = .ok []) : ∃ start readings ps,
      T.datetime scenario.startTime = .ok start ∧
      generateSensorReadings M T scenario = .ok readings ∧
      readings.mapM (placeReading T.uuid db) = .ok ps ∧
      (LosesNothing M T db scenario readings ↔ DistinctInstants T readings ∧
        (readings ≠ [] → Lawful T db readings ps ∧ Fulfils T db scenario start readings ps)) := by
  obtain ⟨start, readings, ps, hstart, hr, hps⟩ := accepted_generated hvalid
  refine ⟨start, readings, ps, hstart, hr, hps, ?_⟩
  have hnone : ∀ result db', executeBuilderScenario M T scenario db = (.ok result, db') →
      ∃ runs, executeRuns M T scenario db = (.ok ([], runs), db') ∧
        (NoneLost T readings runs result.zoneResults db' ↔ DistinctInstants T readings) := by
    intro result db' hrun
    have herrors : result.errors = [] := by
      obtain ⟨_, _, _, _, _, -, -, -, rfl⟩ := (execute_accepted hvalid).1 hrun
      rfl
    obtain ⟨readings', runs, hr', hruns, hiff⟩ := noneLost_iff M T hT hrun herrors
    cases hr.symm.trans hr'
    exact ⟨runs, hruns, hiff⟩
  rw [← execute_returns_iff hvalid hstart hr hps]
  constructor
  · intro h
    refine ⟨?_, h.returns⟩
    by_cases hnil : readings = []
    · rw [hnil]
      exact List.nodup_nil
    · obtain ⟨result, db', hrun⟩ := h.returns hnil
      obtain ⟨runs, hruns, hnoneLost⟩ := h.noneLost result db' hrun
      obtain ⟨runs', hruns', hiff⟩ := hnone result db' hrun
      cases hruns.symm.trans hruns'
      exact hiff.1 hnoneLost
  · rintro ⟨hdistinct, hreturns⟩
    refine ⟨hreturns, fun result db' hrun => ?_⟩
    obtain ⟨runs, hruns, hiff⟩ := hnone result db' hrun
    exact ⟨runs, hruns, hiff.2 hdistinct⟩

end

/-- What is read of a scenario's rows on the plant: its start, its readings' zones and the latest value. -/
def plantRows (scenario : Scenario ℚ) : Result (DateTime × List (Option ℕ × String) × Option ℚ) := do
  let start ← plainText.datetime scenario.startTime
  let readings ← generateSensorReadings Math.dyadic plainText scenario
  let ps ← readings.mapM (placeReading plainText.uuid Runtime.plant)
  pure (start, readings.map fun r => (plainText.uuidOfStr r.zoneKey, r.gasType),
    (SensorReadingRepository.latest (persisted Runtime.plant ps []) 1 "CO").map SensorReading.value)

/-- On the plant a scenario of gas in zone 1 fulfils what is left open. -/
theorem plant_fulfils {scenario : Scenario ℚ} {start : DateTime} (n : ℕ) (value : ℚ)
    (hoffset : plainText.naive scenario.startTime = false)
    (hpermits : ∀ event ∈ scenario.permitEvents, event.Dated ⟨0, 0⟩ ∧ event.permitType ∈ permitTypes)
    (hrows : (plantRows scenario).toOption = some (⟨0, 0⟩, List.replicate n (some 1, "CO"), some value))
    (hvalue : 0 ≤ value) {readings : List (GeneratedReading ℚ ℕ)} {ps : List (PlacedReading ℚ ℕ)}
    (hstart : plainText.datetime scenario.startTime = .ok start)
    (hr : generateSensorReadings Math.dyadic plainText scenario = .ok readings)
    (hps : readings.mapM (placeReading plainText.uuid Runtime.plant) = .ok ps) :
    Fulfils plainText Runtime.plant scenario start readings ps := by
  have hthreshold : ∀ s ∈ Runtime.plant.sensors.rows, 0 < s.alarmThreshold := by decide
  rw [plantRows, hstart, Except.ok_bind, hr, Except.ok_bind, hps, Except.ok_bind] at hrows
  have hrows := Option.some.inj hrows
  simp only [Prod.mk.injEq] at hrows
  obtain ⟨rfl, hzones, hlatest⟩ := hrows
  refine ⟨fun _ => hoffset, fun event hevent => (hpermits event hevent).1, fun p hp => ?_,
    fun p _ zoneId _ gasType _ sensor hsensor hzero => ?_, fun r hr zoneId hzone => ?_,
    fun r _ zoneId _ row hrow => nomatch hrow⟩
  · obtain ⟨event, hevent, rfl⟩ := List.mem_map.1 hp
    exact (hpermits event hevent).2
  · exact absurd hzero (hthreshold sensor (List.mem_of_find?_eq_some hsensor)).ne'
  · have hpair : (plainText.uuidOfStr r.zoneKey, r.gasType) ∈ List.replicate n (some 1, "CO") :=
      hzones ▸ List.mem_map_of_mem hr
    obtain ⟨hone, hgas⟩ := Prod.mk.inj (List.eq_of_mem_replicate hpair)
    cases hzone.symm.trans hone
    rw [hgas]
    intro sensor hsensor reading hreading
    rw [show SensorReadingRepository.latest (persisted Runtime.plant ps []) 1 "CO" = some reading
      from hreading] at hlatest
    exact ⟨hthreshold sensor (List.mem_of_find?_eq_some hsensor), Option.some.inj hlatest ▸ hvalue⟩

/-- A scenario of a quiet hour with a permit. -/
theorem hotWork_sound : Sound Math.dyadic plainText Runtime.plant (Runtime.hotWork 5) :=
  (sound_iff LiveIngestion.plant_constrained).2 fun _ _ _ _ hstart hr hps =>
    plant_fulfils 2 5 rfl (by decide +kernel) (by decide +kernel) (by norm_num) hstart hr hps

/-- Two events of gas in zone 1 that follow each other. -/
theorem twoEvents_losesNothing : ∃ readings : List (GeneratedReading ℚ ℕ), readings.length = 4 ∧
    LosesNothing Math.dyadic plainText Runtime.plant (twoEvents 2) readings := by
  have hvalid : (validateBuilderScenario Math.dyadic plainText Runtime.plant (twoEvents 2)).toOption =
      some [] := by decide +kernel
  have happart : (generateSensorReadings Math.dyadic plainText (twoEvents 2)).toOption.map
      (fun readings => (readings.length, decide (DistinctInstants plainText readings))) =
        some (4, true) := by decide +kernel
  obtain ⟨start, readings, ps, hstart, hr, hps, hiff⟩ := losesNothing_iff
    (T := plainText) (plain_resolveId_injective _) (Except.toOption_eq_some.1 hvalid)
  rw [hr] at happart
  obtain ⟨hlength, hdistinct⟩ := Prod.mk.inj (Option.some.inj happart)
  refine ⟨readings, hlength, hiff.2 ⟨of_decide_eq_true hdistinct, fun _ => ⟨lawful_of_constrained
    LiveIngestion.plant_constrained (Except.toOption_eq_some.1 hvalid) hr hps, ?_⟩⟩⟩
  exact plant_fulfils 4 6 rfl (by decide +kernel) (by decide +kernel) (by norm_num) hstart hr hps

/-- A permit type that the table does not know. -/
def welding : Scenario ℚ :=
  { Runtime.hotWork 5 with
    permitEvents := (Runtime.hotWork 5).permitEvents.map ({ · with permitType := "welding" }) }

/-- The validation accepts it, and the insert fails. -/
theorem welding_accepted_raises : Accepts Math.dyadic plainText Runtime.plant welding ∧
    (executeBuilderScenario Math.dyadic plainText welding Runtime.plant).1.toOption.isNone ∧
      ¬Sound Math.dyadic plainText Runtime.plant welding := by
  have hvalid : (validateBuilderScenario Math.dyadic plainText Runtime.plant welding).toOption =
      some [] := by decide +kernel
  have hstart : (plainText.datetime welding.startTime).toOption = some ⟨0, 0⟩ := by decide +kernel
  have hclocked : ∀ event ∈ welding.sensorEvents, event.Clocked ⟨0, 0⟩ := by decide +kernel
  have hraises : (executeBuilderScenario Math.dyadic plainText welding Runtime.plant).1.toOption.isNone :=
    by decide +kernel
  have haccepts : Accepts Math.dyadic plainText Runtime.plant welding := by
    refine ⟨Except.toOption_eq_some.1 hvalid, fun start h => ?_⟩
    cases h.symm.trans (Except.toOption_eq_some.1 hstart)
    exact hclocked
  refine ⟨haccepts, hraises, fun hsound => ?_⟩
  obtain ⟨result, db', hrun, -⟩ := hsound.completes haccepts
  rw [hrun] at hraises
  cases hraises

end ScenarioBuilder
