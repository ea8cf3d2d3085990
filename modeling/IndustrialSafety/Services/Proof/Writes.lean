import IndustrialSafety.Db.Proof.Writes
import IndustrialSafety.Services.Proof.RiskPipeline
import IndustrialSafety.Services.Proof.Validate
import IndustrialSafety.Services.Runtime

/-!
# What the services write

Every entry point only writes rows, whether it returns or raises (`Service.Across (Writes A)`): the
readings and permits its scenario generates, one assessment for each tick.
-/

open Py

namespace SimulationRunner

open Simulation Transaction

variable {R Uuid : Type} [Field R] [LinearOrder R] [DecidableEq Uuid] {A : Allowed R Uuid}
  {M : Math R} {T : Text R Uuid} {resolve : String → Result Uuid} {scenario : Scenario R}
  {readings : List (GeneratedReading R Uuid)}

omit [Field R] [LinearOrder R] in
theorem persistReading_writes {reading : GeneratedReading R Uuid}
    (hA : ∀ row : SensorReading R Uuid, row.value = reading.value → A.reading row) :
    Across (Writes A) (persistReading resolve reading) := by
  refine across_lift_bind fun zoneId _ => across_get_bind fun db => ?_
  split
  · exact fun _ _ _ h => nomatch h
  · exact closed_across.bind (SensorReadingRepository.create_writes hA) fun _ => closed_across.pure _

/-- The row a scenario writes for a permit, on top of an existing one. -/
structure PermitRow (M : Math R) (T : Text R Uuid) (resolve : String → Result Uuid)
    (scenario : Scenario R) (readings : List (GeneratedReading R Uuid))
    (permit : GeneratedPermit Uuid) (db : Db R Uuid) (row : Permit R Uuid) : Prop where
  permitId : row.permitId = permit.permitId
  zoneId : resolve permit.zoneKey = .ok row.zoneId
  issuedAt : row.issuedAt = permit.issuedAt.instant
  baseline : computeBaselineSnapshot M T db permit.zoneKey permit.issuedAt scenario readings
    row.zoneId = .ok row.baselineSnapshot
  status : row.status = ((db.permits.get? permit.permitId).map Permit.status).getD .active

/-- The baseline only reads static tables. -/
theorem computeBaselineSnapshot_static {db db' : Db R Uuid} (h : SameStatic db db')
    (zoneKey : String) (issuedAt : DateTime) (zoneId : Uuid) :
    computeBaselineSnapshot M T db' zoneKey issuedAt scenario readings zoneId =
      computeBaselineSnapshot M T db zoneKey issuedAt scenario readings zoneId := by
  unfold computeBaselineSnapshot ZoneRepository.get SensorRepository.getByZoneAndGas
  rw [h.zones, h.sensors]

theorem persistPermit_writes {permit : GeneratedPermit Uuid}
    (hA : ∀ db row, PermitRow M T resolve scenario readings permit db row → A.permit db row) :
    Across (Writes A) (persistPermit M T resolve scenario readings permit) := by
  intro db u db' h
  obtain ⟨zoneId, hzone, h⟩ := lift_bind_eq_ok.1 h
  rw [get_bind] at h
  obtain ⟨baseline, hbaseline, h⟩ := lift_bind_eq_ok.1 h
  obtain ⟨officer, -, h⟩ := lift_bind_eq_ok.1 h
  obtain ⟨row, db₁, hcreate, h⟩ := bind_eq_ok.1 h
  obtain ⟨rfl, rfl⟩ := PermitRepository.create_ok hcreate
  cases h
  exact .single (.permit db _ (hA db _ ⟨rfl, hzone, rfl, hbaseline, rfl⟩))

variable [FloorRing R]

/-- What a scenario writes is allowed. -/
structure Permits (A : Allowed R Uuid) (M : Math R) (T : Text R Uuid)
    (resolve : String → Result Uuid) (scenario : Scenario R) : Prop where
  reading : ∀ readings, generateSensorReadings M T scenario = .ok readings → ∀ r ∈ readings,
    ∀ row : SensorReading R Uuid, row.value = r.value → A.reading row
  permit : ∀ readings, generateSensorReadings M T scenario = .ok readings →
    ∀ permits, generatePermits T scenario = .ok permits → ∀ p ∈ permits, ∀ db row,
      PermitRow M T resolve scenario readings p db row → A.permit db row

theorem persistScenario_writes (hA : Permits A M T resolve scenario) :
    Across (Writes A) (persistScenario M T resolve scenario) := by
  refine across_lift_bind fun readings hr => ?_
  refine closed_across.bind (closed_across.mapM fun r hr' =>
    persistReading_writes (hA.reading readings hr r hr')) fun _ => ?_
  refine across_lift_bind fun permits hp => ?_
  exact closed_across.bind (closed_across.mapM fun p hp' =>
    persistPermit_writes (hA.permit readings hr permits hp p hp')) fun _ => closed_across.pure _

theorem runScenario_writes {db : Db R Uuid} (hA : validateStructure M scenario = .ok () →
    validateReferences T db scenario = .ok () →
      Permits A M T (fun key => pure (T.resolveId key)) scenario) :
    Writes A db (runScenario M T scenario db).2 := by
  unfold runScenario
  cases hs : validateStructure M scenario with
  | error e => exact .refl
  | ok u =>
    refine Service.transaction_across (r := Writes A) fun v db' h => ?_
    rw [get_bind] at h
    obtain ⟨_, href, h⟩ := lift_bind_eq_ok.1 h
    exact closed_across.bind (persistScenario_writes (hA hs href)) (fun _ => closed_across.pure _)
      db v db' h

end SimulationRunner

namespace RiskPipeline

variable {R Uuid : Type} [Field R] [LinearOrder R] [IsStrictOrderedRing R] [DecidableEq Uuid]
  {A : Allowed R Uuid} {M : Math R} {T : Text R Uuid}

theorem runZoneTick_writes (hA : ∀ a, A.assessment a) (zoneId : Uuid) (gasType : String)
    (simTime : DateTime) (tickId : Nat) (cache : Scheduler.AgentCache R)
    (tierState : Tiering.TierState R) :
    Service.Across (Writes A) (runZoneTick M T zoneId gasType simTime tickId cache tierState) := by
  intro db
  rw [runZoneTick_effect]
  cases tickRow M T db zoneId gasType simTime tickId cache tierState with
  | none => exact .refl
  | some a => exact .single (.assessment db a (hA a))

end RiskPipeline

namespace ScenarioBuilder

open Simulation SimulationRunner

variable {R Uuid : Type} [Field R] [LinearOrder R] [IsStrictOrderedRing R] [FloorRing R]
  [DecidableEq Uuid] {A : Allowed R Uuid} {M : Math R} {T : Text R Uuid} {scenario : Scenario R}

omit [IsStrictOrderedRing R] in
/-- An accepted scenario has no negative reading. -/
theorem validateBuilderScenario_nonneg {db : Db R Uuid}
    (h : validateBuilderScenario M T db scenario = .ok [])
    {readings : List (GeneratedReading R Uuid)}
    (hr : generateSensorReadings M T scenario = .ok readings) : ∀ r ∈ readings, 0 ≤ r.value := by
  obtain ⟨-, -, readings', hr', hnonneg⟩ := validateBuilderScenario_eq_nil.1 h
  cases hr.symm.trans hr'
  exact hnonneg

omit [FloorRing R] in
theorem runTicks_writes (hA : ∀ a, A.assessment a) (zoneId : Uuid) (gasType : String)
    (timestamps : List DateTime) (tickId : Nat) (cache : Scheduler.AgentCache R)
    (tierState : Tiering.TierState R) :
    Service.Across (Writes A) (runTicks M T zoneId gasType timestamps tickId cache tierState) := by
  induction timestamps generalizing tickId cache tierState with
  | nil => exact Service.closed_across.pure _
  | cons simTime timestamps ih =>
    refine Service.closed_across.bind (RiskPipeline.runZoneTick_writes hA _ _ _ _ _ _) fun result => ?_
    exact Service.closed_across.bind (ih _ _ _) fun _ => Service.closed_across.pure _

omit [FloorRing R] in
theorem runZones_writes (hA : ∀ a, A.assessment a) (startTime : String)
    (readings : List (GeneratedReading R Uuid)) :
    Service.Across (Writes A) (runZones M T startTime readings) := by
  refine Service.closed_across.bind (Service.across_lift _) fun pairs =>
    Service.closed_across.mapM fun group _ => ?_
  obtain ⟨⟨zoneId, gasType⟩, timestamps⟩ := group
  exact Service.closed_across.bind (runTicks_writes hA _ _ _ _ _ _) fun _ =>
    Service.closed_across.pure _

theorem executeRuns_writes (hA : ∀ a, A.assessment a) {db : Db R Uuid}
    (hP : validateBuilderScenario M T db scenario = .ok [] → Permits A M T T.uuid scenario) :
    Writes A db (executeRuns M T scenario db).2 := by
  refine Service.bind_across (r := Writes A)
    (Service.transaction_across (r := Writes A) fun p db' h => ?_) fun p => ?_
  · unfold persistBuilderScenario at h
    rw [Transaction.get_bind] at h
    obtain ⟨errors, he, h⟩ := Transaction.lift_bind_eq_ok.1 h
    split at h
    · cases h
      exact .refl
    · rename_i hnil
      rw [not_not.1 hnil] at he
      exact Transaction.closed_across.bind (persistScenario_writes (hP he))
        (fun _ => Transaction.closed_across.pure _) db p db' h
  · obtain ⟨errors, readings⟩ := p
    dsimp only
    split
    · exact Service.closed_across.pure _
    · exact Service.closed_across.bind (runZones_writes hA _ readings) fun _ =>
        Service.closed_across.pure _

theorem executeBuilderScenario_writes (hA : ∀ a, A.assessment a) {db : Db R Uuid}
    (hP : validateBuilderScenario M T db scenario = .ok [] → Permits A M T T.uuid scenario) :
    Writes A db (executeBuilderScenario M T scenario db).2 :=
  Service.bind_across (executeRuns_writes hA hP) fun _ => Service.closed_across.pure _

end ScenarioBuilder

namespace LiveIngestion

open Transaction

variable {R Uuid : Type} [DecidableEq Uuid] {A : Allowed R Uuid} {T : Text R Uuid}

theorem ingestReading_writes {readingId sensorId : Uuid} {value : R} {unit : Option String}
    {timestamp : DateTime} {qualityFlag : String}
    (hA : ∀ row : SensorReading R Uuid, row.value = value → A.reading row) :
    Across (Writes A)
      (ingestReading T readingId sensorId value unit timestamp qualityFlag) := by
  refine across_get_bind fun db => ?_
  split
  · exact fun _ _ _ h => nomatch h
  · exact SensorReadingRepository.createWithDefaultId_writes hA

/-- What the rows of a file write is allowed. -/
def Permits (A : Allowed R Uuid) (T : Text R Uuid) (rows : List (CsvRow × Uuid)) : Prop :=
  ∀ p ∈ rows, ∀ reading, parseRow T p.1 = .ok reading →
    ∀ row : SensorReading R Uuid, row.value = reading.value → A.reading row

theorem ingestRows_writes {rows : List (CsvRow × Uuid)} (hA : Permits A T rows) (rowIndex : Nat)
    (acc : CsvIngestResult) : Across (Writes A) (ingestRows T rowIndex rows acc) := by
  induction rows generalizing rowIndex acc with
  | nil => exact closed_across.pure _
  | cons p rows ih =>
    obtain ⟨row, readingId⟩ := p
    refine closed_across.bind (Across.tryCatch ?_ fun exc => ?_) fun acc =>
      ih (fun q hq => hA q (by simp [hq])) _ _
    · refine across_lift_bind fun args hargs => ?_
      exact closed_across.bind (ingestReading_writes (hA (row, readingId) (by simp) args hargs)) fun _ =>
        closed_across.pure _
    · -- a failed row writes nothing
      split
      · exact closed_across.pure _
      · exact fun _ _ _ h => nomatch h

end LiveIngestion

namespace Runtime

variable {R Uuid : Type} [Field R] [LinearOrder R] [IsStrictOrderedRing R] [FloorRing R]
  [DecidableEq Uuid] {A : Allowed R Uuid} {M : Math R} {T : Text R Uuid}

/-- Every row the write may write to `db` is allowed. -/
def Write.Fits (A : Allowed R Uuid) (M : Math R) (T : Text R Uuid) (db : Db R Uuid) :
    Write R Uuid → Prop
  | .ingestReading _ _ value _ _ _ => ∀ row : SensorReading R Uuid, row.value = value → A.reading row
  | .ingestCsvFile rows => LiveIngestion.Permits A T rows
  | .runScenario scenario => Simulation.validateStructure M scenario = .ok () →
    SimulationRunner.validateReferences T db scenario = .ok () →
      SimulationRunner.Permits A M T (fun key => pure (T.resolveId key)) scenario
  | .executeBuilderScenario scenario => (∀ a, A.assessment a) ∧
    (ScenarioBuilder.validateBuilderScenario M T db scenario = .ok [] →
      SimulationRunner.Permits A M T T.uuid scenario)
  | .updateStatus _ _ => ∀ db, ∀ permit ∈ db.permits, ∀ status, A.permit db { permit with status }

theorem Write.call_writes {w : Write R Uuid} {db : Db R Uuid} (h : w.Fits A M T db) :
    Writes A db (w.call M T db).2 := by
  have hunit : ∀ {α : Type} {m : Service Exc (Db R Uuid) α}, Writes A db (m db).2 →
      Writes A db ((do let _ ← m) db).2 := fun hm =>
    Service.bind_across hm fun _ => Service.closed_across.pure _
  cases w with
  | ingestReading =>
    exact hunit (Service.across_transaction (LiveIngestion.ingestReading_writes h) db)
  | ingestCsvFile =>
    exact hunit (Service.across_transaction (LiveIngestion.ingestRows_writes h _ _) db)
  | runScenario => exact SimulationRunner.runScenario_writes h
  | executeBuilderScenario =>
    exact hunit (ScenarioBuilder.executeBuilderScenario_writes h.1 h.2)
  | updateStatus =>
    exact hunit (Service.across_transaction (PermitRepository.updateStatus_writes h) db)

theorem State.tick_writes (hA : ∀ a, A.assessment a) (s : State R Uuid) (thread : Nat)
    (zoneId : Uuid) (gasType : String) (simTime : DateTime) (tickId : Nat) :
    Writes A s.db (s.next M T (.tick thread zoneId gasType simTime tickId)).db := by
  simp only [State.next]
  split
  · exact .refl
  · rename_i cache tierState _
    have h : Writes A s.db
        (RiskPipeline.runZoneTick M T zoneId gasType simTime tickId cache tierState s.db).2 :=
      RiskPipeline.runZoneTick_writes hA _ _ _ _ _ _ _
    split
    all_goals
      rename_i hrun
      rw [hrun] at h
      exact h

end Runtime
