import IndustrialSafety.Db.Proof.Constraints
import IndustrialSafety.Lib.Upsert
import IndustrialSafety.Services.Proof.Writes

/-!
# What a scenario persists

The two loops of a scenario merge rows into the tables of readings and permits. What they merge only
depends on the static tables (`placeReading`, `permitArgs`), and they return iff every row satisfies its
table's constraints (`persistScenario_eq_ok`).
-/

open Py

variable {R Uuid : Type} [Field R] [LinearOrder R] [DecidableEq Uuid]

namespace SimulationRunner

open Simulation Transaction

/-! ## Readings -/

/-- A reading with the zone and the sensor it is stored under. -/
structure PlacedReading (R Uuid : Type) where
  reading : GeneratedReading R Uuid
  zoneId : Uuid
  sensorId : Uuid

def PlacedReading.args (p : PlacedReading R Uuid) : SensorReadingRepository.Args R Uuid where
  readingId := p.reading.readingId
  sensorId := p.sensorId
  zoneId := p.zoneId
  gasType := p.reading.gasType
  value := p.reading.value
  unit := some "ppm"
  timestamp := p.reading.timestamp.instant

/-- The row of a reading, on top of an existing row. -/
def PlacedReading.row (p : PlacedReading R Uuid) (existing : Option (SensorReading R Uuid)) :
    SensorReading R Uuid :=
  p.args.row existing "ppm"

def PlacedReading.key (p : PlacedReading R Uuid) : Uuid × Instant :=
  (p.reading.readingId, p.reading.timestamp.instant)

omit [Field R] [LinearOrder R] [DecidableEq Uuid] in
theorem merging_reading : Table.Merging (fun r : SensorReading R Uuid => (r.readingId, r.timestamp))
    PlacedReading.row PlacedReading.key :=
  ⟨fun _ _ => rfl, fun _ _ _ _ => rfl⟩

/-- What the first loop reads of the database. -/
def placeReading (resolve : String → Result Uuid) (db : Db R Uuid)
    (reading : GeneratedReading R Uuid) : Result (PlacedReading R Uuid) := do
  let zoneId ← resolve reading.zoneKey
  match SensorRepository.getByZoneAndGas db zoneId reading.gasType with
  | none => throw .assertionError
  | some sensor => pure ⟨reading, zoneId, sensor.sensorId⟩

def PlacedReading.persist (db : Db R Uuid) (p : PlacedReading R Uuid) : Db R Uuid :=
  { db with sensorReadings := db.sensorReadings.merge PlacedReading.row PlacedReading.key p }

/-- The row satisfies the constraints of its table. -/
def PlacedReading.Fits (p : PlacedReading R Uuid) (db : Db R Uuid) : Prop :=
  (p.row (db.sensorReadings.get? p.key)).Constrained db

variable {M : Math R} {T : Text R Uuid} {resolve : String → Result Uuid} {scenario : Scenario R}
  {readings : List (GeneratedReading R Uuid)} {db db' : Db R Uuid}

omit [Field R] [LinearOrder R] in
theorem persistReading_eq_ok {reading : GeneratedReading R Uuid} :
    (∃ u, persistReading resolve reading db = .ok (u, db')) ↔
      ∃ p, placeReading resolve db reading = .ok p ∧ p.Fits db ∧ db' = p.persist db := by
  unfold persistReading placeReading
  simp only [lift_bind_eq_ok, get_bind, Except.bind_eq_ok]
  refine ⟨fun h => ?_, fun h => ?_⟩
  · obtain ⟨u, zoneId, hzone, h⟩ := h
    cases hs : SensorRepository.getByZoneAndGas db zoneId reading.gasType with
    | none =>
      rw [hs] at h
      cases h
    | some sensor =>
      rw [hs] at h
      obtain ⟨row, db₁, hcreate, h⟩ := bind_eq_ok.1 h
      obtain ⟨⟨unit, hunit, hrow, hfits⟩, hdb⟩ := SensorReadingRepository.create_eq_ok.1 hcreate
      cases h
      cases hunit
      subst hrow hdb
      refine ⟨⟨reading, zoneId, sensor.sensorId⟩, ⟨zoneId, hzone, ?_⟩, hfits, rfl⟩
      rw [hs]
      rfl
  · obtain ⟨p, ⟨zoneId, hzone, hp⟩, hfits, rfl⟩ := h
    refine ⟨(), zoneId, hzone, ?_⟩
    cases hs : SensorRepository.getByZoneAndGas db zoneId reading.gasType with
    | none =>
      rw [hs] at hp
      cases hp
    | some sensor =>
      rw [hs] at hp
      cases hp
      exact bind_eq_ok.2 ⟨_, _, SensorReadingRepository.create_eq_ok.2 ⟨⟨"ppm", rfl, rfl, hfits⟩, rfl⟩,
        rfl⟩

omit [Field R] [LinearOrder R] in
/-- The flag that decides whether a row fits does not change. -/
theorem PlacedReading.fits_persist (p q : PlacedReading R Uuid) :
    q.Fits (p.persist db) ↔ q.Fits db := by
  have hrow : q.row ((p.persist db).sensorReadings.get? q.key) =
      q.row (db.sensorReadings.get? q.key) := by
    show q.row ((db.sensorReadings.merge PlacedReading.row PlacedReading.key p).get? q.key) = _
    rw [merging_reading.get?_merge]
    split <;> rfl
  unfold PlacedReading.Fits
  rw [hrow]
  exact ⟨fun h => ⟨h.gasType, h.qualityFlag, h.sensorId, h.zoneId⟩,
    fun h => ⟨h.gasType, h.qualityFlag, h.sensorId, h.zoneId⟩⟩

omit [Field R] [LinearOrder R] in
theorem placeReading_reading {r : GeneratedReading R Uuid} {p : PlacedReading R Uuid}
    (h : placeReading resolve db r = .ok p) : p.reading = r := by
  obtain ⟨zoneId, -, h⟩ := Except.bind_eq_ok.1 h
  split at h
  · cases h
  · cases h
    rfl

omit [Field R] [LinearOrder R] in
theorem placeReading_static (h : SameStatic db db') (reading : GeneratedReading R Uuid) :
    placeReading resolve db' reading = placeReading resolve db reading := by
  unfold placeReading SensorRepository.getByZoneAndGas
  rw [h.sensors]

omit [Field R] [LinearOrder R] in
theorem persistReadings_eq_ok : (∃ us, readings.mapM (persistReading resolve) db = .ok (us, db')) ↔
    ∃ ps, readings.mapM (placeReading resolve db) = .ok ps ∧ (∀ p ∈ ps, p.Fits db) ∧
      db' = ps.foldl PlacedReading.persist db := by
  refine mapM_apply_eq_ok (I := SameStatic db) (fun s b hs => ?_) (fun s b c _ => b.fits_persist c)
    (fun x s s' hs => ?_) ⟨rfl, rfl, rfl, rfl, rfl⟩
  · exact ⟨hs.zones, hs.zoneAdjacency, hs.sensors, hs.equipment, hs.workers⟩
  · rw [← placeReading_static hs]
    exact persistReading_eq_ok

/-! ## Permits -/

omit [Field R] [LinearOrder R] [DecidableEq Uuid] in
theorem merging_permit : Table.Merging (fun p : Permit R Uuid => p.permitId)
    PermitRepository.Args.row PermitRepository.Args.permitId :=
  ⟨fun _ _ => rfl, fun _ _ _ _ => rfl⟩

/-- What the second loop reads of the database. -/
def permitArgs (M : Math R) (T : Text R Uuid) (resolve : String → Result Uuid)
    (scenario : Scenario R) (readings : List (GeneratedReading R Uuid)) (db : Db R Uuid)
    (permit : GeneratedPermit Uuid) : Result (PermitRepository.Args R Uuid) := do
  let zoneId ← resolve permit.zoneKey
  let baselineSnapshot ←
    computeBaselineSnapshot M T db permit.zoneKey permit.issuedAt scenario readings zoneId
  let authorizingOfficerId ← resolve permit.authorizingOfficerKey
  pure ⟨permit.permitId, permit.permitType, zoneId, permit.issuedAt.instant,
    permit.expiresAt.instant, authorizingOfficerId, baselineSnapshot⟩

def mergePermit (db : Db R Uuid) (args : PermitRepository.Args R Uuid) : Db R Uuid :=
  { db with
    permits := db.permits.merge PermitRepository.Args.row PermitRepository.Args.permitId args }

/-- The row satisfies the constraints of its table. -/
def FitsPermit (args : PermitRepository.Args R Uuid) (db : Db R Uuid) : Prop :=
  (args.row (db.permits.get? args.permitId)).Constrained db

theorem persistPermit_eq_ok {permit : GeneratedPermit Uuid} :
    (∃ u, persistPermit M T resolve scenario readings permit db = .ok (u, db')) ↔
      ∃ args, permitArgs M T resolve scenario readings db permit = .ok args ∧
        FitsPermit args db ∧ db' = mergePermit db args := by
  unfold persistPermit permitArgs
  simp only [lift_bind_eq_ok, get_bind, Except.bind_eq_ok]
  refine ⟨fun h => ?_, fun h => ?_⟩
  · obtain ⟨u, zoneId, hzone, baseline, hbaseline, officer, hofficer, h⟩ := h
    obtain ⟨row, db₁, hcreate, h⟩ := bind_eq_ok.1 h
    obtain ⟨rfl, hfits, rfl⟩ := PermitRepository.create_eq_ok.1 hcreate
    cases h
    exact ⟨_, ⟨zoneId, hzone, baseline, hbaseline, officer, hofficer, rfl⟩, hfits, rfl⟩
  · obtain ⟨args, ⟨zoneId, hzone, baseline, hbaseline, officer, hofficer, h⟩, hfits, rfl⟩ := h
    cases h
    exact ⟨(), zoneId, hzone, baseline, hbaseline, officer, hofficer,
      bind_eq_ok.2 ⟨_, _, PermitRepository.create_eq_ok.2 ⟨rfl, hfits, rfl⟩, rfl⟩⟩

omit [Field R] [LinearOrder R] in
theorem fitsPermit_iff {args : PermitRepository.Args R Uuid} : FitsPermit args db ↔
    args.permitType ∈ permitTypes ∧ (db.zones.get? args.zoneId).isSome ∧
      (db.workers.get? args.authorizingOfficerId).isSome :=
  ⟨fun h => ⟨h.permitType, h.zoneId, h.authorizingOfficerId⟩, fun h => ⟨h.1, h.2.1, h.2.2⟩⟩

omit [Field R] [LinearOrder R] in
/-- Whether a permit fits depends on the static tables. -/
theorem fitsPermit_static (h : SameStatic db db') {args : PermitRepository.Args R Uuid} :
    FitsPermit args db' ↔ FitsPermit args db := by
  rw [fitsPermit_iff, fitsPermit_iff, h.zones, h.workers]

/-- What a permit's row takes from the permit. -/
theorem permitArgs_permit {p : GeneratedPermit Uuid} {a : PermitRepository.Args R Uuid}
    (h : permitArgs M T resolve scenario readings db p = .ok a) :
    a.permitId = p.permitId ∧ a.permitType = p.permitType ∧ a.issuedAt = p.issuedAt.instant ∧
      a.expiresAt = p.expiresAt.instant := by
  obtain ⟨zoneId, -, h⟩ := Except.bind_eq_ok.1 h
  obtain ⟨snapshot, -, h⟩ := Except.bind_eq_ok.1 h
  obtain ⟨officerId, -, h⟩ := Except.bind_eq_ok.1 h
  cases h
  exact ⟨rfl, rfl, rfl, rfl⟩

theorem permitArgs_static (h : SameStatic db db') (permit : GeneratedPermit Uuid) :
    permitArgs M T resolve scenario readings db' permit =
      permitArgs M T resolve scenario readings db permit := by
  unfold permitArgs
  simp only [computeBaselineSnapshot_static h]

theorem persistPermits_eq_ok {permits : List (GeneratedPermit Uuid)} :
    (∃ us, permits.mapM (persistPermit M T resolve scenario readings) db = .ok (us, db')) ↔
      ∃ args, permits.mapM (permitArgs M T resolve scenario readings db) = .ok args ∧
        (∀ a ∈ args, FitsPermit a db) ∧ db' = args.foldl mergePermit db := by
  have hfits : ∀ (s : Db R Uuid) (b c : PermitRepository.Args R Uuid),
      FitsPermit c (mergePermit s b) ↔ FitsPermit c s := fun s b c => by
    have hstatic : SameStatic s (mergePermit s b) := ⟨rfl, rfl, rfl, rfl, rfl⟩
    exact fitsPermit_static hstatic
  refine mapM_apply_eq_ok (I := SameStatic db) (fun s b hs => ?_) (fun s b c _ => hfits s b c)
    (fun x s s' hs => ?_) ⟨rfl, rfl, rfl, rfl, rfl⟩
  · exact ⟨hs.zones, hs.zoneAdjacency, hs.sensors, hs.equipment, hs.workers⟩
  · rw [← permitArgs_static hs]
    exact persistPermit_eq_ok

/-! ## A scenario -/

/-- The database with the rows of a scenario. -/
def persisted (db : Db R Uuid) (ps : List (PlacedReading R Uuid))
    (args : List (PermitRepository.Args R Uuid)) : Db R Uuid :=
  { db with
    sensorReadings := ps.foldl (Table.merge PlacedReading.row PlacedReading.key) db.sensorReadings
    permits := args.foldl
      (Table.merge PermitRepository.Args.row PermitRepository.Args.permitId) db.permits }

omit [Field R] [LinearOrder R] in
theorem foldl_persist (ps : List (PlacedReading R Uuid)) (db : Db R Uuid) :
    ps.foldl PlacedReading.persist db = { db with
      sensorReadings :=
        ps.foldl (Table.merge PlacedReading.row PlacedReading.key) db.sensorReadings } := by
  induction ps generalizing db with
  | nil => rfl
  | cons p ps ih => exact ih (p.persist db)

omit [Field R] [LinearOrder R] in
theorem foldl_mergePermit (args : List (PermitRepository.Args R Uuid)) (db : Db R Uuid) :
    args.foldl mergePermit db = { db with
      permits := args.foldl
        (Table.merge PermitRepository.Args.row PermitRepository.Args.permitId) db.permits } := by
  induction args generalizing db with
  | nil => rfl
  | cons a args ih => exact ih (mergePermit db a)

variable [FloorRing R]

/-- What the loops write, and that it may be written. -/
structure Persists (M : Math R) (T : Text R Uuid) (resolve : String → Result Uuid)
    (scenario : Scenario R) (db : Db R Uuid) (readings : List (GeneratedReading R Uuid))
    (ps : List (PlacedReading R Uuid)) (args : List (PermitRepository.Args R Uuid)) : Prop where
  generated : generateSensorReadings M T scenario = .ok readings
  placed : readings.mapM (placeReading resolve db) = .ok ps
  fits : ∀ p ∈ ps, p.Fits db
  permits : ∃ permits, generatePermits T scenario = .ok permits ∧
    permits.mapM (permitArgs M T resolve scenario readings db) = .ok args
  fitsPermit : ∀ a ∈ args, FitsPermit a db

theorem persistScenario_eq_ok : persistScenario M T resolve scenario db = .ok (readings, db') ↔
    ∃ ps args, Persists M T resolve scenario db readings ps args ∧ db' = persisted db ps args := by
  have hstatic : ∀ ps : List (PlacedReading R Uuid),
      SameStatic db (ps.foldl PlacedReading.persist db) := by
    intro ps
    rw [foldl_persist]
    exact ⟨rfl, rfl, rfl, rfl, rfl⟩
  unfold persistScenario
  simp only [lift_bind_eq_ok]
  refine ⟨fun h => ?_, fun h => ?_⟩
  · obtain ⟨readings', hreadings, h⟩ := h
    obtain ⟨us, db₁, hus, h⟩ := bind_eq_ok.1 h
    obtain ⟨permits, hpermits, h⟩ := lift_bind_eq_ok.1 h
    obtain ⟨vs, db₂, hvs, h⟩ := bind_eq_ok.1 h
    cases h
    obtain ⟨ps, hps, hfits, rfl⟩ := persistReadings_eq_ok.1 ⟨us, hus⟩
    obtain ⟨args, hargs, hfits', rfl⟩ := persistPermits_eq_ok.1 ⟨vs, hvs⟩
    rw [funext (permitArgs_static (hstatic ps))] at hargs
    refine ⟨ps, args, ⟨hreadings, hps, hfits, ⟨permits, hpermits, hargs⟩, fun a ha =>
      (fitsPermit_static (hstatic ps)).1 (hfits' a ha)⟩, ?_⟩
    rw [foldl_mergePermit, foldl_persist]
    rfl
  · obtain ⟨ps, args, h, rfl⟩ := h
    obtain ⟨permits, hpermits, hargs⟩ := h.permits
    obtain ⟨us, hus⟩ := persistReadings_eq_ok.2 ⟨ps, h.placed, h.fits, rfl⟩
    rw [← funext (permitArgs_static (hstatic ps))] at hargs
    obtain ⟨vs, hvs⟩ := persistPermits_eq_ok.2
      ⟨args, hargs, fun a ha => (fitsPermit_static (hstatic ps)).2 (h.fitsPermit a ha), rfl⟩
    refine ⟨readings, h.generated, bind_eq_ok.2 ⟨us, _, hus, lift_bind_eq_ok.2 ⟨permits, hpermits,
      bind_eq_ok.2 ⟨vs, _, hvs, ?_⟩⟩⟩⟩
    rw [foldl_mergePermit, foldl_persist]
    rfl

/-- The same rows again, whatever the assessments are: nothing changes. -/
theorem Persists.again {ps : List (PlacedReading R Uuid)}
    {args : List (PermitRepository.Args R Uuid)}
    (h : Persists M T resolve scenario db readings ps args) (hstatic : SameStatic db db')
    (hreadings : db'.sensorReadings = (persisted db ps args).sensorReadings)
    (hpermits : db'.permits = (persisted db ps args).permits) :
    Persists M T resolve scenario db' readings ps args ∧ persisted db' ps args = db' := by
  refine ⟨⟨h.generated, ?_, fun p hp => ?_, ?_, fun a ha => ?_⟩, ?_⟩
  · rw [funext (placeReading_static hstatic)]
    exact h.placed
  · have hfits : ∀ (l : List (PlacedReading R Uuid)) (s : Db R Uuid),
        p.Fits (l.foldl PlacedReading.persist s) ↔ p.Fits s := by
      intro l
      induction l with
      | nil => exact fun s => .rfl
      | cons q l ih => exact fun s => (ih _).trans (q.fits_persist p)
    have hfit := (hfits ps db).2 (h.fits p hp)
    rw [foldl_persist] at hfit
    have hrow : p.row (db'.sensorReadings.get? p.key) = p.row ((ps.foldl
        (Table.merge PlacedReading.row PlacedReading.key) db.sensorReadings).get? p.key) := by
      rw [hreadings]
      rfl
    unfold PlacedReading.Fits
    rw [hrow]
    exact ⟨hfit.gasType, hfit.qualityFlag, by rw [hstatic.sensors]; exact hfit.sensorId,
      by rw [hstatic.zones]; exact hfit.zoneId⟩
  · rw [funext (permitArgs_static hstatic)]
    exact h.permits
  · exact (fitsPermit_static hstatic).2 (h.fitsPermit a ha)
  · unfold persisted at hreadings hpermits ⊢
    dsimp only at hreadings hpermits
    have hreadings' := merging_reading.foldl_again ps db.sensorReadings
    have hpermits' := merging_permit.foldl_again args db.permits
    rw [← hreadings] at hreadings'
    rw [← hpermits] at hpermits'
    rw [hreadings', hpermits']

end SimulationRunner

namespace ScenarioBuilder

open Simulation SimulationRunner

variable [FloorRing R] {M : Math R} {T : Text R Uuid} {scenario : Scenario R}
  {db db' : Db R Uuid}

/-- The validation reads the static tables. -/
theorem validateBuilderScenario_static (h : SameStatic db db') :
    validateBuilderScenario M T db' scenario = validateBuilderScenario M T db scenario := by
  have hsensor : sensorEventErrors T db' = (sensorEventErrors T db : SensorEvent R → _) := by
    funext event
    unfold sensorEventErrors ZoneRepository.get SensorRepository.getByZoneAndGas
    rw [h.zones, h.sensors]
  have hzone : permitZoneErrors T db' = (permitZoneErrors T db : PermitEvent R → _) := by
    funext event
    unfold permitZoneErrors ZoneRepository.get
    rw [h.zones]
  have hofficer : permitOfficerErrors T db' = (permitOfficerErrors T db : PermitEvent R → _) := by
    funext event
    unfold permitOfficerErrors WorkerRepository.get
    rw [h.workers]
  unfold validateBuilderScenario
  rw [hsensor, hzone, hofficer]

theorem persistBuilderScenario_eq_ok {errors : List String}
    {readings : List (GeneratedReading R Uuid)} :
    persistBuilderScenario M T scenario db = .ok ((errors, readings), db') ↔
      (validateBuilderScenario M T db scenario = .ok errors ∧ errors ≠ [] ∧ readings = [] ∧ db' = db) ∨
      (validateBuilderScenario M T db scenario = .ok [] ∧ errors = [] ∧
        persistScenario M T T.uuid scenario db = .ok (readings, db')) := by
  unfold persistBuilderScenario
  rw [Transaction.get_bind, Transaction.lift_bind_eq_ok]
  refine ⟨fun h => ?_, fun h => ?_⟩
  · obtain ⟨errors', herrors, h⟩ := h
    split at h
    · rename_i hne
      cases h
      exact .inl ⟨herrors, hne, rfl, rfl⟩
    · rename_i hne
      rw [not_not.1 hne] at herrors
      obtain ⟨readings', db₁, hpersist, h⟩ := Transaction.bind_eq_ok.1 h
      cases h
      exact .inr ⟨herrors, rfl, hpersist⟩
  · rcases h with ⟨herrors, hne, rfl, rfl⟩ | ⟨herrors, rfl, hpersist⟩
    · exact ⟨errors, herrors, by rw [if_pos hne]; rfl⟩
    · refine ⟨[], herrors, ?_⟩
      rw [if_neg (by simp)]
      exact Transaction.bind_eq_ok.2 ⟨readings, db', hpersist, rfl⟩

end ScenarioBuilder
