import IndustrialSafety.Agents.Proof.Spec
import IndustrialSafety.Lib.Run
import IndustrialSafety.Py.Instances
import IndustrialSafety.Services.Proof.Writes

/-!
# What a stored permit keeps

A permit's id is derived from its scenario's seed and its event's name alone, and `create` merges: a
scenario that repeats both overwrites the row of an earlier one (`repeated_name_overwrites`). While every
scenario that meets a stored permit repeats its zone, issue time and baseline (`Action.Repeats`), no
action changes these columns of any stored permit (`run_keeps_permits`).
-/

open Py Simulation

namespace SimulationRunner

variable {R Uuid : Type} [Field R] [LinearOrder R] [DecidableEq Uuid] {M : Math R} {T : Text R Uuid}

/-! ## Baselines -/

/-- The elevated floor of a zone. -/
def zoneFloor (db : Db R Uuid) (zoneId : Uuid) : R :=
  ((ZoneRepository.get db zoneId).bind Zone.elevatedFloorOverride).getD 40

section
variable {db : Db R Uuid} {zoneKey : String} {issuedAt : DateTime} {scenario : Scenario R}
  {readings : List (GeneratedReading R Uuid)} {zoneId : Uuid} {snapshot : BaselineSnapshot R}

/-- When a baseline is computed, and from what. -/
theorem computeBaselineSnapshot_eq_ok :
    computeBaselineSnapshot M T db zoneKey issuedAt scenario readings zoneId = .ok snapshot ↔
      ∃ risk confidence,
        snapshot = ⟨some 1, some 1, some risk, some confidence, some (T.isoformat issuedAt)⟩ ∧
        ((resolveZoneGasType scenario zoneKey = none ∧ risk = zoneFloor db zoneId ∧
            confidence = (GasRisk.GasRiskConfig.default M).missingDataConfidence) ∨
          ∃ gasType sensor, resolveZoneGasType scenario zoneKey = some gasType ∧
            SensorRepository.getByZoneAndGas db zoneId gasType = some sensor ∧
            GasRisk.calculateRisk M (zoneReadings readings zoneKey gasType issuedAt)
              sensor.alarmThreshold (zoneFloor db zoneId) issuedAt.instant
              (GasRisk.GasRiskConfig.default M) = .ok risk ∧
            ¬(T.naive scenario.startTime ∧ zoneReadings readings zoneKey gasType issuedAt ≠ [] ∧
              sensor.lastCalibratedAt.isSome) ∧
            confidence = GasRisk.calculateConfidence M
              (zoneReadings readings zoneKey gasType issuedAt) sensor.lastCalibratedAt
              issuedAt.instant (GasRisk.GasRiskConfig.default M)) := by
  unfold computeBaselineSnapshot
  dsimp only
  cases hgas : resolveZoneGasType scenario zoneKey with
  | none =>
    constructor
    · intro h
      cases h
      exact ⟨_, _, rfl, .inl ⟨rfl, rfl, rfl⟩⟩
    · rintro ⟨_, _, rfl, ⟨-, rfl, rfl⟩ | ⟨_, _, hsome, -⟩⟩
      · rfl
      · cases hsome
  | some gasType =>
    dsimp only
    cases hsensor : SensorRepository.getByZoneAndGas db zoneId gasType with
    | none =>
      refine iff_of_false nofun ?_
      rintro ⟨_, _, -, ⟨hnone, -⟩ | ⟨_, _, hsome, hsensor', -⟩⟩
      · cases hnone
      · cases hsome
        cases hsensor.symm.trans hsensor'
    | some sensor =>
      dsimp only
      constructor
      · intro h
        obtain ⟨risk, hrisk, h⟩ := Except.bind_eq_ok.1 h
        split at h
        · cases h
        · rename_i hoffset
          cases h
          exact ⟨risk, _, rfl, .inr ⟨gasType, sensor, rfl, hsensor, hrisk, hoffset, rfl⟩⟩
      · rintro ⟨risk, _, rfl, ⟨hnone, -⟩ | ⟨_, _, hsome, hsensor', hrisk, hoffset, rfl⟩⟩
        · cases hnone
        · cases hsome
          cases hsensor.symm.trans hsensor'
          refine Except.bind_eq_ok.2 ⟨risk, hrisk, ?_⟩
          rw [if_neg hoffset]
          rfl

end

/-- What the readings of a zone up to the issue time give: the zone's floor where there is none, else the
risk of the latest one at the threshold of the zone's sensor. -/
def BaselineOf (M : Math R) (T : Text R Uuid) (db : Db R Uuid) (scenario : Scenario R)
    (readings : List (GeneratedReading R Uuid)) (p : GeneratedPermit Uuid) (zoneId : Uuid)
    (snapshot : BaselineSnapshot R) : Prop :=
  ∃ risk confidence,
    snapshot = ⟨some 1, some 1, some risk, some confidence, some (T.isoformat p.issuedAt)⟩ ∧
    ((resolveZoneGasType scenario p.zoneKey = none ∧ risk = zoneFloor db zoneId ∧
        confidence = (GasRisk.GasRiskConfig.default M).missingDataConfidence) ∨
      ∃ gasType sensor, resolveZoneGasType scenario p.zoneKey = some gasType ∧
        SensorRepository.getByZoneAndGas db zoneId gasType = some sensor ∧
        let earlier := zoneReadings readings p.zoneKey gasType p.issuedAt
        confidence = GasRisk.calculateConfidence M earlier sensor.lastCalibratedAt p.issuedAt.instant
          (GasRisk.GasRiskConfig.default M) ∧
        ((earlier = [] ∧ risk = zoneFloor db zoneId) ∨
          ∃ latest ∈ earlier.getLast?, sensor.alarmThreshold ≠ 0 ∧
            ¬(T.naive scenario.startTime ∧ sensor.lastCalibratedAt.isSome) ∧
            risk = GasRisk.readingRisk M latest sensor.alarmThreshold (zoneFloor db zoneId)
              p.issuedAt.instant (GasRisk.GasRiskConfig.default M)))

theorem baselineOf_iff {db : Db R Uuid} {scenario : Scenario R}
    {readings : List (GeneratedReading R Uuid)} {p : GeneratedPermit Uuid} {zoneId : Uuid}
    {snapshot : BaselineSnapshot R} : BaselineOf M T db scenario readings p zoneId snapshot ↔
      computeBaselineSnapshot M T db p.zoneKey p.issuedAt scenario readings zoneId = .ok snapshot := by
  rw [computeBaselineSnapshot_eq_ok, BaselineOf]
  refine exists_congr fun risk => exists_congr fun confidence => and_congr_right fun _ =>
    or_congr_right (exists_congr fun gasType => exists_congr fun sensor => and_congr_right fun _ =>
      and_congr_right fun _ => ?_)
  dsimp only
  rw [GasRisk.calculateRisk_ok, List.getLast?_eq_none_iff]
  generalize zoneReadings readings p.zoneKey gasType p.issuedAt = earlier
  constructor
  · rintro ⟨hconfidence, ⟨hnil, hrisk⟩ | ⟨latest, hlatest, hthreshold, hoffset, hrisk⟩⟩
    · exact ⟨.inl ⟨hnil, hrisk⟩, fun h => h.2.1 hnil, hconfidence⟩
    · exact ⟨.inr ⟨latest, hlatest, hthreshold, hrisk⟩, fun h => hoffset ⟨h.1, h.2.2⟩, hconfidence⟩
  · rintro ⟨⟨hnil, hrisk⟩ | ⟨latest, hlatest, hthreshold, hrisk⟩, hoffset, hconfidence⟩
    · exact ⟨hconfidence, .inl ⟨hnil, hrisk⟩⟩
    · have hne : earlier ≠ [] := by
        rintro rfl
        cases hlatest
      exact ⟨hconfidence, .inr ⟨latest, hlatest, hthreshold, fun h => hoffset ⟨h.1, hne, h.2⟩, hrisk⟩⟩

instance (M : Math R) (T : Text R Uuid) (db : Db R Uuid) (scenario : Scenario R)
    (readings : List (GeneratedReading R Uuid)) (p : GeneratedPermit Uuid) (zoneId : Uuid)
    (snapshot : BaselineSnapshot R) :
    Decidable (BaselineOf M T db scenario readings p zoneId snapshot) :=
  decidable_of_iff _ baselineOf_iff.symm

end SimulationRunner

namespace Runtime

open SimulationRunner

variable {R Uuid : Type} [Field R] [LinearOrder R] [FloorRing R] [DecidableEq Uuid] {M : Math R}
  {T : Text R Uuid}

/-- The columns of a permit that are written at issuance. -/
def issuance (p : Permit R Uuid) : BaselineSnapshot R × Uuid × Instant :=
  (p.baselineSnapshot, p.zoneId, p.issuedAt)

/-! ## Repeated permits -/

/-- A generated permit whose id is stored has the stored row's zone and issue time, and the scenario's
readings give its baseline. -/
def ScenarioRepeats (M : Math R) (T : Text R Uuid) (resolve : String → Result Uuid)
    (db : Db R Uuid) (scenario : Scenario R) : Prop :=
  ∀ readings, generateSensorReadings M T scenario = .ok readings →
    ∀ permits, generatePermits T scenario = .ok permits → ∀ p ∈ permits,
      ∀ old ∈ db.permits, old.permitId = p.permitId →
        resolve p.zoneKey = .ok old.zoneId ∧ p.issuedAt.instant = old.issuedAt ∧
          BaselineOf M T db scenario readings p old.zoneId old.baselineSnapshot

instance (M : Math R) (T : Text R Uuid) (resolve : String → Result Uuid) (db : Db R Uuid)
    (scenario : Scenario R) : Decidable (ScenarioRepeats M T resolve db scenario) :=
  match hr : generateSensorReadings M T scenario, hp : generatePermits T scenario with
  | .error _, _ => isTrue (by simp [ScenarioRepeats, hr])
  | .ok _, .error _ => isTrue (by simp [ScenarioRepeats, hp])
  | .ok readings, .ok permits =>
    decidable_of_iff (∀ p ∈ permits, ∀ old ∈ db.permits.rows, old.permitId = p.permitId →
        resolve p.zoneKey = .ok old.zoneId ∧ p.issuedAt.instant = old.issuedAt ∧
          BaselineOf M T db scenario readings p old.zoneId old.baselineSnapshot)
      (by simp [ScenarioRepeats, hr, hp, Table.mem_def])

/-- The scenario of the action, if it has one and it is accepted, repeats the stored permits it
meets. -/
def Action.Repeats (M : Math R) (T : Text R Uuid) (s : State R Uuid) : Action R Uuid → Prop
  | .write (.runScenario scenario) => validateStructure M scenario = .ok () →
    validateReferences T s.db scenario = .ok () →
      ScenarioRepeats M T (fun key => pure (T.resolveId key)) s.db scenario
  | .write (.executeBuilderScenario scenario) =>
    ScenarioBuilder.validateBuilderScenario M T s.db scenario = .ok [] →
      ScenarioRepeats M T T.uuid s.db scenario
  | _ => True

variable [IsStrictOrderedRing R]

/-- The rows an action writes, the permits of its scenario among them. -/
def scenarioRows (M : Math R) (T : Text R Uuid) (resolve : String → Result Uuid)
    (scenario : Scenario R) : Allowed R Uuid where
  reading _ := True
  permit db row := ∃ readings permits p, generateSensorReadings M T scenario = .ok readings ∧
    generatePermits T scenario = .ok permits ∧ p ∈ permits ∧
      PermitRow M T resolve scenario readings p db row
  assessment _ := True

omit [IsStrictOrderedRing R] in
theorem permits_scenarioRows (resolve : String → Result Uuid) (scenario : Scenario R) :
    Permits (scenarioRows M T resolve scenario) M T resolve scenario :=
  ⟨fun _ _ _ _ _ _ => trivial,
    fun readings hr permits hp p hp' _ _ hrow => ⟨readings, permits, p, hr, hp, hp', hrow⟩⟩

omit [IsStrictOrderedRing R] in
/-- A scenario that repeats the stored permits it meets changes none. -/
theorem scenario_keeps_permits {resolve : String → Result Uuid} {scenario : Scenario R}
    {db db' : Db R Uuid} (hrep : ScenarioRepeats M T resolve db scenario)
    (h : Writes (scenarioRows M T resolve scenario) db db') :
    ∀ old ∈ db.permits, ∃ new ∈ db'.permits, new.permitId = old.permitId ∧
      issuance new = issuance old := by
  refine Writes.keeps_permits h fun d row hstatic hrow old hold hid _ _ _ _ => ?_
  obtain ⟨readings, permits, p, hr, hp, hp', hrow⟩ := hrow
  obtain ⟨hzone, hissued, hbaseline⟩ :=
    hrep readings hr permits hp p hp' old hold (hid.trans hrow.permitId)
  have hz : row.zoneId = old.zoneId := Except.ok.inj (hrow.zoneId.symm.trans hzone)
  have hb := hrow.baseline
  rw [computeBaselineSnapshot_static hstatic, hz, baselineOf_iff.1 hbaseline] at hb
  simp only [issuance, Except.ok.inj hb, hz, hrow.issuedAt, hissued]

/-! ## The other writes -/

/-- A stored permit with another status. -/
def statusOnly (R Uuid : Type) : Allowed R Uuid :=
  ⟨fun _ => True, fun db row => ∃ permit ∈ db.permits, ∃ status, row = { permit with status },
    fun _ => True⟩

omit [Field R] [LinearOrder R] [FloorRing R] [IsStrictOrderedRing R] in
theorem noPermit_keeps_permits {db db' : Db R Uuid} (h : Writes (noPermit R Uuid) db db') :
    ∀ old ∈ db.permits, ∃ new ∈ db'.permits, new.permitId = old.permitId ∧
      issuance new = issuance old := by
  rw [Writes.permits_eq (fun _ _ => id) h]
  exact fun old hold => ⟨old, hold, rfl, rfl⟩

omit [Field R] [LinearOrder R] [FloorRing R] [IsStrictOrderedRing R] in
theorem statusOnly_keeps_permits {db db' : Db R Uuid} (h : Writes (statusOnly R Uuid) db db') :
    ∀ old ∈ db.permits, ∃ new ∈ db'.permits, new.permitId = old.permitId ∧
      issuance new = issuance old := by
  refine Writes.keeps_permits h fun d row _ hrow old _ _ current hcurrent hid hcol => ?_
  obtain ⟨permit, hpermit, status, rfl⟩ := hrow
  rw [Table.eq_of_key hcurrent hpermit hid] at hcol
  exact hcol

/-! ## Runs -/

theorem next_keeps_permits {s : State R Uuid} {a : Action R Uuid} (ha : a.Repeats M T s) :
    ∀ old ∈ s.db.permits, ∃ new ∈ (s.next M T a).db.permits, new.permitId = old.permitId ∧
      issuance new = issuance old := by
  cases a with
  | tick thread zoneId gasType simTime tickId =>
    exact noPermit_keeps_permits (State.tick_writes (fun _ => trivial) _ _ _ _ _ _)
  | write w =>
    cases w with
    | ingestReading => exact noPermit_keeps_permits (Write.call_writes fun _ _ => trivial)
    | ingestCsvFile => exact noPermit_keeps_permits (Write.call_writes fun _ _ _ _ _ _ => trivial)
    | runScenario scenario =>
      by_cases hv : validateStructure M scenario = .ok () ∧
        validateReferences T s.db scenario = .ok ()
      · exact scenario_keeps_permits (ha hv.1 hv.2)
          (Write.call_writes fun _ _ => permits_scenarioRows _ _)
      · exact noPermit_keeps_permits (Write.call_writes fun hs hr => absurd ⟨hs, hr⟩ hv)
    | executeBuilderScenario scenario =>
      by_cases hv : ScenarioBuilder.validateBuilderScenario M T s.db scenario = .ok []
      · exact scenario_keeps_permits (ha hv)
          (Write.call_writes ⟨fun _ => trivial, fun _ => permits_scenarioRows _ _⟩)
      · exact noPermit_keeps_permits
          (Write.call_writes ⟨fun _ => trivial, fun h => absurd h hv⟩)
    | updateStatus => exact statusOnly_keeps_permits (Write.call_writes fun _ permit hp status =>
        ⟨permit, hp, status, rfl⟩)

/-- **A permit keeps its baseline, zone and issue time from any state of a run to any later one.** -/
theorem run_keeps_permits (M : Math R) (T : Text R Uuid) (s : State R Uuid)
    (before after : List (Action R Uuid))
    (h : Run.Along (State.next M T) (fun s a => a.Repeats M T s) s (before ++ after)) :
    ∀ old ∈ (s.run M T before).db.permits,
      ∃ new ∈ (s.run M T (before ++ after)).db.permits, new.permitId = old.permitId ∧
        new.baselineSnapshot = old.baselineSnapshot ∧ new.zoneId = old.zoneId ∧
          new.issuedAt = old.issuedAt := by
  intro old hold
  obtain ⟨new, hnew, hid, hcol⟩ := (Run.along_append.1 h).2.invariant
    (I := fun s => ∃ new ∈ s.db.permits, new.permitId = old.permitId ∧ issuance new = issuance old)
    (fun s a hs ha => by
      obtain ⟨mid, hmid, hid, hcol⟩ := hs
      obtain ⟨new, hnew, hid', hcol'⟩ := next_keeps_permits ha mid hmid
      exact ⟨new, hnew, hid'.trans hid, hcol'.trans hcol⟩)
    ⟨old, hold, rfl, rfl⟩
  refine ⟨new, ?_, hid, by simpa only [issuance, Prod.mk.injEq] using hcol⟩
  rwa [State.run, List.foldl_append]

/-- A hot-work permit in zone 1, issued at a constant gas reading. -/
def hotWork (value : ℚ) : Scenario ℚ where
  seed := 1
  startTime := "0+0"
  sensorEvents := [{
    name := "gas"
    zoneKey := "1"
    gasType := "CO"
    simTime := 0
    durationMinutes := 1
    curve := "linear_ramp"
    params := [("start_value", value), ("slope", 0)]
    sampleIntervalMinutes := 1 }]
  permitEvents := [{
    name := "P1"
    zoneKey := "1"
    simTime := 0
    permitType := "hot_work"
    authorizingOfficerKey := "9"
    durationMinutes := 60 }]

def buildHotWork (value : ℚ) : Action ℚ ℕ := .write (.executeBuilderScenario (hotWork value))

/-- The same scenario twice. -/
theorem run_keeps_permits_hotWork :
    ∃ old ∈ ((State.seeded plant).run Math.dyadic plainText [buildHotWork 5]).db.permits,
      ∃ new ∈ ((State.seeded plant).run Math.dyadic plainText
          [buildHotWork 5, buildHotWork 5]).db.permits,
        new.permitId = old.permitId ∧ new.baselineSnapshot = old.baselineSnapshot := by
  have hfirst : ScenarioRepeats Math.dyadic plainText plainText.uuid plant (hotWork 5) := by
    decide +kernel
  have hagain : ScenarioRepeats Math.dyadic plainText plainText.uuid
      ((State.seeded plant).next Math.dyadic plainText (buildHotWork 5)).db (hotWork 5) := by
    decide +kernel
  obtain ⟨old, hold⟩ : ∃ old, old ∈
      ((State.seeded plant).run Math.dyadic plainText [buildHotWork 5]).db.permits.rows :=
    List.exists_mem_of_length_pos (by decide +kernel)
  obtain ⟨new, hnew, hid, hbaseline, -⟩ := run_keeps_permits Math.dyadic plainText
    (State.seeded plant) [buildHotWork 5] [buildHotWork 5]
    ⟨fun _ => hfirst, fun _ => hagain, trivial⟩ old hold
  exact ⟨old, hold, new, hnew, hid, hbaseline⟩

/-- The same names with another reading: the baseline goes from 50 to 93.75. -/
theorem repeated_name_overwrites :
    ∃ old ∈ ((State.seeded plant).run Math.dyadic plainText [buildHotWork 5]).db.permits,
      ∃ new ∈ ((State.seeded plant).run Math.dyadic plainText
          [buildHotWork 5, buildHotWork 20]).db.permits, new.permitId = old.permitId ∧
        old.baselineSnapshot.gasRiskAtIssuance = some 50 ∧
          new.baselineSnapshot.gasRiskAtIssuance = some (375 / 4) := by
  decide +kernel

end Runtime
