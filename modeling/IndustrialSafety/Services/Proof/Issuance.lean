import IndustrialSafety.Agents.Proof.Spec
import IndustrialSafety.Db.Proof.Writes
import IndustrialSafety.Services.Proof.Baseline
import IndustrialSafety.Services.Proof.Validate
import IndustrialSafety.Services.Proof.Writes

/-!
# The baseline at issuance

The baseline snapshot of a permit is computed from the generated readings, the agent's context from the
stored ones. Both only depend on the latest reading up to the time of issue and on whether there are
enough (`GasRisk.calculateRisk_congr`, `GasRisk.calculateConfidence_congr`), and the window of the query
holds the latest reading and more than enough (`window_readings`): `baseline_matches_agent`.
-/

namespace SimulationRunner

open Py Simulation

variable {R Uuid : Type} [Field R] [LinearOrder R] [DecidableEq Uuid]

/-- The stored readings of a gas of the zone up to `issuedAt`. -/
def storedUpTo (db : Db R Uuid) (zoneId : Uuid) (gasType : String) (issuedAt : Instant) :
    List (SensorReading R Uuid) :=
  db.sensorReadings.rows.filter fun r =>
    r.zoneId = zoneId ∧ r.gasType = gasType ∧ r.timestamp ≤ issuedAt

/-- The generated readings of the zone up to `issuedAt`. -/
def generatedUpTo (readings : List (GeneratedReading R Uuid)) (zoneKey : String)
    (issuedAt : Instant) : List (GeneratedReading R Uuid) :=
  readings.filter fun r => r.zoneKey = zoneKey ∧ r.timestamp.instant ≤ issuedAt

/-- The stored readings of the zone's gas up to `issuedAt` are the scenario's own, at distinct times. -/
structure OwnReadings (db : Db R Uuid) (zoneId : Uuid) (gasType : String)
    (readings : List (GeneratedReading R Uuid)) (zoneKey : String) (issuedAt : Instant) : Prop where
  same : ((storedUpTo db zoneId gasType issuedAt).map fun r => (r.timestamp, r.value)).Perm
    ((generatedUpTo readings zoneKey issuedAt).map fun r => (r.timestamp.instant, r.value))
  distinct : ((storedUpTo db zoneId gasType issuedAt).map SensorReading.timestamp).Nodup

section
variable {db : Db R Uuid} {zoneId : Uuid} {gasType zoneKey : String} {issuedAt : DateTime}
  {readings : List (GeneratedReading R Uuid)}

/-- The readings in the agent's context at the time of issue. -/
def window (db : Db R Uuid) (zoneId : Uuid) (gasType : String) (issuedAt : Instant) :
    List (GasReading R) :=
  (SensorReadingRepository.recent db zoneId gasType issuedAt ContextBuilders.defaultReadingWindow).map
    fun r => ⟨r.timestamp, r.value⟩

omit [Field R] [LinearOrder R] [DecidableEq Uuid] in
theorem zoneReadings_of_gas (hgas : ∀ r ∈ readings, r.zoneKey = zoneKey → r.gasType = gasType) :
    zoneReadings readings zoneKey gasType issuedAt =
      ((generatedUpTo readings zoneKey issuedAt.instant).map fun r =>
        (⟨r.timestamp.instant, r.value⟩ : GasReading R)).insertionSort
          fun a b => a.timestamp ≤ b.timestamp := by
  unfold zoneReadings generatedUpTo
  congr 2
  refine List.filter_congr fun r hr => ?_
  by_cases hz : r.zoneKey = zoneKey <;> simp [hz, hgas r hr]

omit [LinearOrder R] [Field R] in
/-- The window and the scenario's readings end with the same reading and are both long enough for the
regression, or neither. -/
theorem window_readings (hgas : ∀ r ∈ readings, r.zoneKey = zoneKey → r.gasType = gasType)
    (h : OwnReadings db zoneId gasType readings zoneKey issuedAt.instant) :
    (window db zoneId gasType issuedAt.instant).getLast? =
        (zoneReadings readings zoneKey gasType issuedAt).getLast? ∧
      ∀ n ≤ ContextBuilders.defaultReadingWindow,
        n ≤ (window db zoneId gasType issuedAt.instant).length ↔
          n ≤ (zoneReadings readings zoneKey gasType issuedAt).length := by
  rw [zoneReadings_of_gas hgas]
  generalize hg : (generatedUpTo readings zoneKey issuedAt.instant).map
    (fun r => (⟨r.timestamp.instant, r.value⟩ : GasReading R)) = generated
  have hperm := List.perm_insertionSort (fun a b : GasReading R => a.timestamp ≤ b.timestamp) generated
  have : Std.Total fun a b : GasReading R => a.timestamp ≤ b.timestamp := ⟨fun a b => le_total _ _⟩
  have : IsTrans (GasReading R) fun a b => a.timestamp ≤ b.timestamp := ⟨fun _ _ _ => le_trans⟩
  have hsorted :=
    List.pairwise_insertionSort (fun a b : GasReading R => a.timestamp ≤ b.timestamp) generated
  generalize (generated.insertionSort fun a b => a.timestamp ≤ b.timestamp) = sorted at hperm hsorted ⊢
  have hsame : ((storedUpTo db zoneId gasType issuedAt.instant).map fun r =>
      (⟨r.timestamp, r.value⟩ : GasReading R)).Perm (sorted.map id) := by
    have := h.same.map fun p : Instant × R => (⟨p.1, p.2⟩ : GasReading R)
    rw [List.map_map, List.map_map] at this
    rw [List.map_id]
    exact (hg ▸ this).trans hperm.symm
  refine ⟨?_, fun n hn => ?_⟩
  · have hlast : (Query.latest SensorReading.timestamp
        (storedUpTo db zoneId gasType issuedAt.instant)).map (fun r => ⟨r.timestamp, r.value⟩) =
          sorted.getLast?.map id :=
      Query.latest_eq_getLast? (t := GasReading.timestamp) (fun _ _ => rfl) h.distinct hsorted hsame
    rw [Option.map_id, id] at hlast
    rw [← hlast, window, List.getLast?_map]
    congr 1
    exact Query.getLast?_recent 19 _
  · have hlen := hsame.length_eq
    rw [List.length_map, List.map_id] at hlen
    rw [window, List.length_map, SensorReadingRepository.recent, Query.length_recent, ← hlen, le_min_iff]
    exact ⟨fun hm => hm.2, fun hm => ⟨hn, hm⟩⟩

end

/-! ## Accepted scenarios -/

variable [FloorRing R]

/-- The scenario passed the checks of the runner, or those of the builder; each reads a zone's key in its
own way. -/
inductive Accepted (M : Math R) (T : Text R Uuid) (db : Db R Uuid) (scenario : Scenario R) :
    (String → Result Uuid) → Prop
  | runner : validateStructure M scenario = .ok () → validateReferences T db scenario = .ok () →
    Accepted M T db scenario fun key => pure (T.resolveId key)
  | builder : ScenarioBuilder.validateBuilderScenario M T db scenario = .ok [] →
    Accepted M T db scenario T.uuid

section
variable {M : Math R} {T : Text R Uuid} {db : Db R Uuid} {scenario : Scenario R}
  {resolve : String → Result Uuid} {readings : List (GeneratedReading R Uuid)}

omit [Field R] [LinearOrder R] [FloorRing R] in
theorem validateSensorReference_sensor {event : SensorEvent R}
    (h : validateSensorReference T db event = .ok ()) :
    (SensorRepository.getByZoneAndGas db (T.resolveId event.zoneKey) event.gasType).isSome := by
  unfold validateSensorReference at h
  dsimp only at h
  split at h
  · cases h
  · split at h
    · cases h
    · rename_i hsensor
      rw [Option.isNone_iff_eq_none] at hsensor
      exact Option.isSome_iff_ne_none.2 hsensor

/-- The zone and gas of every sensor event have a sensor. -/
theorem Accepted.sensor (h : Accepted M T db scenario resolve) {event : SensorEvent R}
    (he : event ∈ scenario.sensorEvents) {zoneId : Uuid} (hz : resolve event.zoneKey = .ok zoneId) :
    (SensorRepository.getByZoneAndGas db zoneId event.gasType).isSome := by
  cases h with
  | runner _ hreferences =>
    obtain ⟨_, hsensor, -⟩ := Except.bind_eq_ok.1 hreferences
    cases hz
    exact validateSensorReference_sensor (Except.forM_eq_ok.1 hsensor event he)
  | builder hvalid =>
    obtain ⟨-, hreferences, -⟩ := ScenarioBuilder.validateBuilderScenario_eq_nil.1 hvalid
    obtain ⟨zoneId', hzone, -, hsensor⟩ :=
      ScenarioBuilder.sensorEventErrors_eq_nil.1 (hreferences.sensorEvent event he)
    cases hzone.symm.trans (T.uuid_eq_ok.1 hz)
    exact hsensor

omit [DecidableEq Uuid] in
/-- A generated reading has the zone and the gas of an event. -/
theorem generated_event (h : generateSensorReadings M T scenario = .ok readings)
    {r : GeneratedReading R Uuid} (hr : r ∈ readings) :
    ∃ event ∈ scenario.sensorEvents, r.zoneKey = event.zoneKey ∧ r.gasType = event.gasType := by
  obtain ⟨start, hstart, -⟩ := Except.bind_eq_ok.1 h
  obtain ⟨event, hevent, part, hpart, hr⟩ := (mem_generateSensorReadings hstart h).1 hr
  obtain ⟨curveFn, -, hsampled⟩ := generateEventReadings_sampled hpart
  obtain ⟨hzone, hgas, -⟩ := hsampled.reading r hr
  exact ⟨event, hevent, hzone, hgas⟩

/-- The agent's input at the time of issue. -/
def inputAt (db : Db R Uuid) (zoneId : Uuid) (gasType : String) (sensor : Sensor R Uuid)
    (issuedAt : Instant) (tickId : Nat) (seen : Results R) : AgentInput R Uuid where
  zoneId := zoneId
  simTime := issuedAt
  tickId := tickId
  upstreamResults := seen
  context := {
    readings := some (window db zoneId gasType issuedAt)
    alarmThreshold := some sensor.alarmThreshold
    lastCalibratedAt := sensor.lastCalibratedAt
    elevatedFloorOverride := (ZoneRepository.get db zoneId).bind Zone.elevatedFloorOverride }

omit [Field R] [LinearOrder R] [FloorRing R] in
theorem inputAt_built {gasType : String} {zoneId : Uuid} {sensor : Sensor R Uuid}
    (hsensor : SensorRepository.getByZoneAndGas db zoneId gasType = some sensor) (issuedAt : Instant)
    (tickId : Nat) (seen : Results R) :
    ContextBuilders.makeGasRiskContextBuilder T db gasType ContextBuilders.defaultReadingWindow zoneId
      issuedAt tickId seen = .ok (inputAt db zoneId gasType sensor issuedAt tickId seen) := by
  unfold ContextBuilders.makeGasRiskContextBuilder
  rw [hsensor]
  rfl

/-- What the agent computes at the time of issue is the baseline, and the delta to it is 0. -/
def MatchesAgent (M : Math R) (T : Text R Uuid) (db : Db R Uuid) (zoneId : Uuid) (gasType : String)
    (issuedAt : Instant) (baseline : PermitBaselineSnapshot R) : Prop :=
  ∀ (tickId : Nat) (seen : Results R), ∃ input r,
    ContextBuilders.makeGasRiskContextBuilder T db gasType ContextBuilders.defaultReadingWindow zoneId
      issuedAt tickId seen = .ok input ∧
    GasRisk.evaluate M (GasRisk.GasRiskConfig.default M) input = .ok r ∧
    r.risk = baseline.gasRiskAtIssuance ∧ r.confidence = baseline.confidenceAtIssuance ∧
    (PermitIntelligence.assessBaselineDelta baseline r.risk
      PermitIntelligence.PermitReasoningConfig.default).delta = 0 ∧
    (PermitIntelligence.assessBaselineDelta baseline r.risk
      PermitIntelligence.PermitReasoningConfig.default).exceeded = false

omit [FloorRing R] in
theorem matchesAgent_of_risk [IsStrictOrderedRing R] {gasType : String} {zoneId : Uuid}
    {sensor : Sensor R Uuid} {issuedAt : Instant} {baseline : PermitBaselineSnapshot R}
    (hsensor : SensorRepository.getByZoneAndGas db zoneId gasType = some sensor)
    (hrisk : GasRisk.calculateRisk M (window db zoneId gasType issuedAt) sensor.alarmThreshold
      (((ZoneRepository.get db zoneId).bind Zone.elevatedFloorOverride).getD 40) issuedAt
      (GasRisk.GasRiskConfig.default M) = .ok baseline.gasRiskAtIssuance)
    (hconfidence : GasRisk.calculateConfidence M (window db zoneId gasType issuedAt)
      sensor.lastCalibratedAt issuedAt (GasRisk.GasRiskConfig.default M) =
        baseline.confidenceAtIssuance) :
    MatchesAgent M T db zoneId gasType issuedAt baseline := by
  intro tickId seen
  obtain ⟨r, hr, hrisk', hconfidence'⟩ : ∃ r, GasRisk.evaluate M (GasRisk.GasRiskConfig.default M)
      (inputAt db zoneId gasType sensor issuedAt tickId seen) = .ok r ∧ r.risk = _ ∧ r.confidence = _ :=
    GasRisk.evaluate_of_risk rfl (by simp [GasRisk.GasRiskConfig.default]) hrisk
  refine ⟨_, r, inputAt_built hsensor issuedAt tickId seen, hr, hrisk',
    hconfidence'.trans hconfidence, ?_, ?_⟩
  · rw [hrisk']
    exact sub_self _
  · rw [hrisk']
    simp [PermitIntelligence.assessBaselineDelta, PermitIntelligence.PermitReasoningConfig.default]

end

/-- **The baseline at issuance agrees with the live agent**: for an accepted scenario and a zone whose
sensor events all use one gas, where the stored readings of that gas up to the time of issue are the
scenario's own, the snapshot parses back to its numbers, and these are the risk and the confidence the
agent computes at the time of issue. -/
theorem baseline_matches_agent [IsStrictOrderedRing R] (M : Math R) (T : Text R Uuid)
    {atIssue db : Db R Uuid} (hstatic : SameStatic atIssue db) {scenario : Scenario R}
    {resolve : String → Result Uuid} (hvalid : Accepted M T atIssue scenario resolve)
    {readings : List (GeneratedReading R Uuid)}
    (hreadings : generateSensorReadings M T scenario = .ok readings) (zoneKey gasType : String)
    (hgas : ∀ event ∈ scenario.sensorEvents, event.zoneKey = zoneKey → event.gasType = gasType)
    {zoneId : Uuid} (hzone : resolve zoneKey = .ok zoneId) (issuedAt : DateTime)
    (hown : OwnReadings db zoneId gasType readings zoneKey issuedAt.instant)
    {snapshot : BaselineSnapshot R}
    (hsnapshot : computeBaselineSnapshot M T atIssue zoneKey issuedAt scenario readings zoneId =
      .ok snapshot) :
    ∃ baseline, ContextBuilders.parseBaselineSnapshot T snapshot = .ok baseline ∧
      snapshot = ⟨some baseline.schemaVersion, some baseline.algorithmVersion,
        some baseline.gasRiskAtIssuance, some baseline.confidenceAtIssuance,
        some (T.isoformat issuedAt)⟩ ∧ baseline.capturedAt = issuedAt ∧
      ((∃ event ∈ scenario.sensorEvents, event.zoneKey = zoneKey) →
        (SensorRepository.getByZoneAndGas db zoneId gasType).isSome) ∧
      ((SensorRepository.getByZoneAndGas db zoneId gasType).isSome →
        MatchesAgent M T db zoneId gasType issuedAt.instant baseline) := by
  have hgas' : ∀ r ∈ readings, r.zoneKey = zoneKey → r.gasType = gasType := by
    intro r hr hz
    obtain ⟨event, hevent, hzone', hgas'⟩ := generated_event hreadings hr
    exact hgas'.trans (hgas event hevent (hzone'.symm.trans hz))
  have hsensors : SensorRepository.getByZoneAndGas db zoneId gasType =
      SensorRepository.getByZoneAndGas atIssue zoneId gasType := by
    unfold SensorRepository.getByZoneAndGas
    rw [hstatic.sensors]
  rw [← computeBaselineSnapshot_static hstatic] at hsnapshot
  obtain ⟨risk, confidence, rfl, hvalues⟩ := computeBaselineSnapshot_eq_ok.1 hsnapshot
  refine ⟨⟨1, 1, risk, confidence, issuedAt⟩, ?_, rfl, rfl, ?_, fun hsensor => ?_⟩
  · simp [ContextBuilders.parseBaselineSnapshot, ContextBuilders.requireKey, Text.datetime,
      T.fromisoformat_isoformat]
  · rintro ⟨event, hevent, hz⟩
    rw [hsensors, ← hgas event hevent hz]
    exact hvalid.sensor hevent (hz ▸ hzone)
  · obtain ⟨sensor, hsensor⟩ := Option.isSome_iff_exists.1 hsensor
    obtain ⟨hlast, hlength⟩ := window_readings hgas' hown
    rcases hvalues with ⟨hnone, hrisk, hconfidence⟩ |
      ⟨gasType', sensor', hsome, hsensor', hrisk, -, hconfidence⟩
    · -- no sensor event in the zone: no reading is generated for it, so none is stored
      have hempty : generatedUpTo readings zoneKey issuedAt.instant = [] := by
        refine List.filter_eq_nil_iff.2 fun r hr => ?_
        obtain ⟨event, hevent, hz, -⟩ := generated_event hreadings hr
        rw [resolveZoneGasType, Option.map_eq_none_iff, List.find?_eq_none] at hnone
        simpa [hz] using fun h => absurd h (by simpa using hnone event hevent)
      have hwindow : (window db zoneId gasType issuedAt.instant).getLast? = none := by
        rw [hlast, zoneReadings_of_gas hgas', hempty]
        rfl
      refine matchesAgent_of_risk hsensor (GasRisk.calculateRisk_ok.2 (.inl ⟨hwindow, hrisk⟩)) ?_
      unfold GasRisk.calculateConfidence
      rw [hwindow]
      exact hconfidence.symm
    · obtain rfl : gasType' = gasType := by
        obtain ⟨event, hfind, rfl⟩ := Option.map_eq_some_iff.1 hsome
        exact hgas event (List.mem_of_find?_eq_some hfind) (by simpa using List.find?_some hfind)
      cases hsensor.symm.trans hsensor'
      refine matchesAgent_of_risk hsensor ?_ ?_
      · rw [GasRisk.calculateRisk_congr hlast]
        exact hrisk
      · rw [GasRisk.calculateConfidence_congr hlast (hlength 3 (by decide)), hconfidence]

/-- The plant with the first reading of `Runtime.hotWork 5`. -/
def hotWorkPlant : Db ℚ ℕ :=
  { Runtime.plant with
    sensorReadings := Table.empty.upsert ⟨11, 7, 1, "CO", 5, "ppm", 0, "ok"⟩ }

theorem baseline_matches_agent_hotWork : ∃ snapshot baseline,
    ContextBuilders.parseBaselineSnapshot plainText snapshot = .ok baseline ∧
      MatchesAgent Math.dyadic plainText hotWorkPlant 1 "CO" 0 baseline := by
  have hvalid : ScenarioBuilder.validateBuilderScenario Math.dyadic plainText Runtime.plant
      (Runtime.hotWork 5) = .ok [] := by decide +kernel
  have hok : (generateSensorReadings Math.dyadic plainText (Runtime.hotWork 5)).toOption.map
      (fun readings => (decide (((storedUpTo hotWorkPlant 1 "CO" 0).map fun r =>
          (r.timestamp, r.value)).Perm ((generatedUpTo readings "1" 0).map fun r =>
            (r.timestamp.instant, r.value))),
        (computeBaselineSnapshot Math.dyadic plainText Runtime.plant "1" ⟨0, 0⟩ (Runtime.hotWork 5)
          readings 1).toOption.isSome)) = some (true, true) := by decide +kernel
  obtain ⟨readings, hreadings, hvalues⟩ := Except.toOption_map_eq_some.1 hok
  obtain ⟨hsame, hsnapshot⟩ := Prod.mk.inj hvalues
  obtain ⟨snapshot, hsnapshot⟩ := Option.isSome_iff_exists.1 hsnapshot
  have hstatic : SameStatic Runtime.plant hotWorkPlant := ⟨rfl, rfl, rfl, rfl, rfl⟩
  have hown : OwnReadings hotWorkPlant 1 "CO" readings "1" 0 :=
    ⟨of_decide_eq_true hsame, by decide +kernel⟩
  have hzone : plainText.uuid "1" = .ok 1 := by decide +kernel
  obtain ⟨baseline, hparse, -, -, -, hmatches⟩ := baseline_matches_agent Math.dyadic plainText hstatic
    (.builder hvalid) hreadings "1" "CO" (by decide) hzone ⟨0, 0⟩ hown
    (Except.toOption_eq_some.1 hsnapshot)
  exact ⟨snapshot, baseline, hparse, hmatches (by decide +kernel)⟩

end SimulationRunner
