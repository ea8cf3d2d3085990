import IndustrialSafety.Py.Instances
import IndustrialSafety.Services.Proof.RiskPipeline
import IndustrialSafety.Services.Runtime

/-!
# The ticks of a builder run

A builder run that returns makes one tick for each reading, and the id of an assessment is its zone's and
time's. So nothing is lost or repeated iff no two readings share a zone and an instant (`noneLost_iff`).
-/

namespace RiskPipeline

open Py Scheduler Tiering

variable {R Uuid : Type} [DecidableEq Uuid]

/-- Assessments persisted in order. -/
def persistAll (db : Db R Uuid) (assessments : List (RiskAssessment R Uuid)) : Db R Uuid :=
  assessments.foldl persist db

theorem persistAll_append (db : Db R Uuid) (as bs : List (RiskAssessment R Uuid)) :
    persistAll db (as ++ bs) = persistAll (persistAll db as) bs :=
  List.foldl_append

theorem persistAll_riskAssessments (db : Db R Uuid) (as : List (RiskAssessment R Uuid)) :
    (persistAll db as).riskAssessments = as.foldl Table.upsert db.riskAssessments := by
  induction as generalizing db with
  | nil => rfl
  | cons a as ih => exact ih (persist db a)

omit [DecidableEq Uuid] in
/-- With an injective `resolve_id` the id determines the zone and the time. -/
theorem deriveAssessmentId_injective {T : Text R Uuid} (hT : Function.Injective T.resolveId) :
    Function.Injective fun p : Uuid × DateTime => deriveAssessmentId T p.1 p.2 := by
  rintro ⟨z, d⟩ ⟨z', d'⟩ h
  have htext := congrArg String.toList (hT h)
  simp only [String.toList_append, toString, List.append_assoc] at htext
  obtain ⟨hz, hd⟩ := split_injective (T.uuidStr_noColon z) (T.uuidStr_noColon z')
    (List.append_cancel_left htext)
  rw [Prod.mk.injEq]
  exact ⟨T.uuidStr_injective (String.toList_injective hz),
    T.isoformat_injective (String.toList_injective hd)⟩

end RiskPipeline

namespace ScenarioBuilder

open Py Simulation SimulationRunner RiskPipeline Scheduler Tiering

variable {R Uuid : Type}

/-- The ticks of the runs. -/
def ticks (runs : List (ZoneRun R Uuid)) : List (Uuid × DateTime) :=
  runs.flatMap fun run => run.timestamps.map fun t => (run.zoneId, t)

/-- The assessments the ticks computed. -/
def assessments (runs : List (ZoneRun R Uuid)) : List (RiskAssessment R Uuid) :=
  runs.flatMap fun run => run.results.map RiskPipelineResult.assessment

/-- The result of a tick of a zone. -/
structure TickResult (T : Text R Uuid) (zoneId : Uuid) (simTime : DateTime)
    (result : RiskPipelineResult R Uuid) : Prop where
  assessmentId : result.assessment.assessmentId = deriveAssessmentId T zoneId simTime
  timestamp : result.assessment.timestamp = simTime.instant

/-- The run of a group: a tick for each of its timestamps. -/
structure RunOf (T : Text R Uuid) (group : (Uuid × String) × List DateTime)
    (run : ZoneRun R Uuid) : Prop where
  zoneId : run.zoneId = group.1.1
  timestamps : run.timestamps.Perm group.2
  results : List.Forall₂ (TickResult T run.zoneId) run.timestamps run.results

section
variable [Field R] [LinearOrder R] [IsStrictOrderedRing R] [DecidableEq Uuid] {M : Math R}
  {T : Text R Uuid} {db db' : Db R Uuid}

theorem runTicks_ok {zoneId : Uuid} {gasType : String} {timestamps : List DateTime} {tickId : Nat}
    {cache : AgentCache R} {tierState : TierState R} {results : List (RiskPipelineResult R Uuid)}
    (h : runTicks M T zoneId gasType timestamps tickId cache tierState db = (.ok results, db')) :
    List.Forall₂ (TickResult T zoneId) timestamps results ∧
      db' = persistAll db (results.map RiskPipelineResult.assessment) := by
  induction timestamps generalizing tickId cache tierState results db with
  | nil =>
    obtain ⟨rfl, rfl⟩ := Service.pure_eq_ok.1 h
    exact ⟨.nil, rfl⟩
  | cons simTime timestamps ih =>
    obtain ⟨result, db₁, htick, h⟩ := Service.bind_eq_ok.1 h
    obtain ⟨results', db₂, hticks, h⟩ := Service.bind_eq_ok.1 h
    obtain ⟨rfl, rfl⟩ := Service.pure_eq_ok.1 h
    obtain ⟨e, he, hdb, ha, -, -⟩ := runZoneTick_ok htick
    obtain ⟨f, hc⟩ := evaluateTick_ok he
    obtain ⟨hresults, hdb'⟩ := ih hticks
    refine ⟨.cons ⟨ha ▸ hc.assessmentId, ha ▸ hc.timestamp⟩ hresults, ?_⟩
    rw [hdb', hdb, ← ha]
    rfl

theorem runZone_ok {group : (Uuid × String) × List DateTime} {run : ZoneRun R Uuid}
    (h : runZone M T group db = (.ok run, db')) :
    RunOf T group run ∧ db' = persistAll db (run.results.map RiskPipelineResult.assessment) := by
  obtain ⟨results, db₁, hticks, h⟩ := Service.bind_eq_ok.1 h
  obtain ⟨rfl, rfl⟩ := Service.pure_eq_ok.1 h
  obtain ⟨hresults, hdb⟩ := runTicks_ok hticks
  exact ⟨⟨rfl, List.perm_insertionSort _ _, hresults⟩, hdb⟩

theorem runGroups_ok {groups : List ((Uuid × String) × List DateTime)}
    {runs : List (ZoneRun R Uuid)} (h : groups.mapM (runZone M T) db = (.ok runs, db')) :
    List.Forall₂ (RunOf T) groups runs ∧ db' = persistAll db (assessments runs) := by
  induction groups generalizing runs db with
  | nil =>
    obtain ⟨rfl, rfl⟩ := Service.mapM_nil_eq_ok.1 h
    exact ⟨.nil, rfl⟩
  | cons group groups ih =>
    obtain ⟨run, db₁, runs', hrun, hruns, rfl⟩ := Service.mapM_cons_eq_ok.1 h
    obtain ⟨hrunOf, rfl⟩ := runZone_ok hrun
    obtain ⟨hrunsOf, rfl⟩ := ih hruns
    exact ⟨.cons hrunOf hrunsOf, (persistAll_append _ _ _).symm⟩

end

/-! ## The ticks are the readings -/

section
variable {T : Text R Uuid}

/-- The ticks of the groups' runs are the groups' pairs. -/
theorem ticks_perm {groups : List ((Uuid × String) × List DateTime)} {runs : List (ZoneRun R Uuid)}
    (h : List.Forall₂ (RunOf T) groups runs) :
    (ticks runs).Perm ((Group.ungroup groups).map fun p => (p.1.1, p.2)) := by
  induction h with
  | nil => exact .nil
  | @cons group run groups runs hrun _ ih =>
    have hticks : (run.timestamps.map fun t => (run.zoneId, t)).Perm
        (group.2.map fun t => (group.1.1, t)) := by
      rw [hrun.zoneId]
      exact hrun.timestamps.map _
    rw [Group.ungroup_cons, List.map_append, List.map_map]
    exact hticks.append ih

/-- The ids of the assessments are those of the ticks. -/
theorem assessmentIds_eq {groups : List ((Uuid × String) × List DateTime)}
    {runs : List (ZoneRun R Uuid)} (h : List.Forall₂ (RunOf T) groups runs) :
    (assessments runs).map (fun a => (a.assessmentId, a.timestamp)) =
      (ticks runs).map fun p => (deriveAssessmentId T p.1 p.2, p.2.instant) := by
  have hrun : ∀ {zoneId : Uuid} {timestamps : List DateTime}
      {results : List (RiskPipelineResult R Uuid)},
      List.Forall₂ (TickResult T zoneId) timestamps results →
        (results.map RiskPipelineResult.assessment).map (fun a => (a.assessmentId, a.timestamp)) =
          (timestamps.map fun t => (zoneId, t)).map
            fun p => (deriveAssessmentId T p.1 p.2, p.2.instant) := by
    intro zoneId timestamps results hresults
    induction hresults with
    | nil => rfl
    | cons hresult _ ih =>
      rw [List.map_cons, List.map_cons, ih, hresult.assessmentId, hresult.timestamp]
      rfl
  induction h with
  | nil => rfl
  | cons hr _ ih =>
    unfold assessments ticks at ih ⊢
    rw [List.flatMap_cons, List.flatMap_cons, List.map_append, List.map_append, ih,
      hrun hr.results]

/-- A zone's result reports the ids of its ticks. -/
theorem reportedIds_eq (runs : List (ZoneRun R Uuid)) :
    (runs.filterMap ZoneRun.executionResult).flatMap ZoneExecutionResult.assessmentIds =
      (assessments runs).map RiskAssessment.assessmentId := by
  induction runs with
  | nil => rfl
  | cons run runs ih =>
    unfold assessments at ih ⊢
    rw [List.flatMap_cons, List.map_append, List.map_map, ← ih]
    rcases hlast : run.results.getLast? with _ | result
    · rw [List.getLast?_eq_none_iff.1 hlast, List.filterMap_cons_none (by simp [ZoneRun.executionResult, hlast])]
      rfl
    · rw [List.filterMap_cons_some (by rw [ZoneRun.executionResult, hlast]; rfl), List.flatMap_cons]
      rfl

theorem tickCount_sum {groups : List ((Uuid × String) × List DateTime)}
    {runs : List (ZoneRun R Uuid)} (h : List.Forall₂ (RunOf T) groups runs) :
    ((runs.filterMap ZoneRun.executionResult).map ZoneExecutionResult.tickCount).sum =
      (ticks runs).length := by
  induction h with
  | nil => rfl
  | @cons group run groups runs hrun _ ih =>
    unfold ticks at ih ⊢
    rw [List.flatMap_cons, List.length_append, List.length_map, ← ih]
    rcases hlast : run.results.getLast? with _ | result
    · have hnil := List.getLast?_eq_none_iff.1 hlast
      have hlength := hrun.results.length_eq
      rw [hnil] at hlength
      rw [hlength, List.filterMap_cons_none (by simp [ZoneRun.executionResult, hlast])]
      simp
    · rw [List.filterMap_cons_some (by rw [ZoneRun.executionResult, hlast]; rfl), List.map_cons,
        List.sum_cons]

/-- A scenario whose start has no offset has no pair. -/
theorem zonePairs_eq_ok {startTime : String} {readings : List (GeneratedReading R Uuid)}
    {pairs : List ((Uuid × String) × DateTime)} : zonePairs T startTime readings = .ok pairs ↔
      (readings ≠ [] → T.naive startTime = false) ∧ List.Forall₂ (fun r p =>
        T.uuid r.zoneKey = .ok p.1.1 ∧ r.gasType = p.1.2 ∧ r.timestamp = p.2) readings pairs := by
  have hpair : ∀ (r : GeneratedReading R Uuid) (p : (Uuid × String) × DateTime),
      (do let zoneId ← T.uuid r.zoneKey
          pure ((zoneId, r.gasType), r.timestamp)) = .ok p ↔
        T.uuid r.zoneKey = .ok p.1.1 ∧ r.gasType = p.1.2 ∧ r.timestamp = p.2 := by
    rintro r ⟨⟨zoneId, gasType⟩, timestamp⟩
    simp [Except.bind_eq_ok]
  unfold zonePairs
  simp only [Except.bind_eq_ok, Except.mapM_eq_ok, hpair]
  constructor
  · rintro ⟨pairs', hpairs, h⟩
    split at h
    · cases h
    · rename_i hstart
      cases h
      refine ⟨fun hne => ?_, hpairs⟩
      have hne' : pairs ≠ [] := fun hnil => hne (List.forall₂_nil_right_iff.1 (hnil ▸ hpairs))
      simpa [hne'] using hstart
  · rintro ⟨hstart, hpairs⟩
    refine ⟨pairs, hpairs, ?_⟩
    have hnot : ¬(T.naive startTime = true ∧ pairs ≠ []) := by
      rintro ⟨hnaive, hne⟩
      rw [hstart fun hnil => hne (List.forall₂_nil_left_iff.1 (hnil ▸ hpairs))] at hnaive
      cases hnaive
    rw [if_neg hnot]
    rfl

/-- A pair is of a reading. -/
theorem mem_zonePairs {startTime : String} {readings : List (GeneratedReading R Uuid)}
    {pairs : List ((Uuid × String) × DateTime)} (h : zonePairs T startTime readings = .ok pairs)
    {p : (Uuid × String) × DateTime} (hp : p ∈ pairs) : ∃ r ∈ readings,
      T.uuidOfStr r.zoneKey = some p.1.1 ∧ r.gasType = p.1.2 ∧ r.timestamp = p.2 := by
  obtain ⟨r, hr, hzone, hgas, htime⟩ := (zonePairs_eq_ok.1 h).2.exists_of_mem_right hp
  exact ⟨r, hr, T.uuid_eq_ok.1 hzone, hgas, htime⟩

theorem zonePairs_total_iff {startTime : String} {readings : List (GeneratedReading R Uuid)} :
    (∃ pairs, zonePairs T startTime readings = .ok pairs) ↔
      (readings ≠ [] → T.naive startTime = false) ∧
        ∀ r ∈ readings, ∃ zoneId, T.uuid r.zoneKey = .ok zoneId := by
  simp only [zonePairs_eq_ok, exists_and_left]
  refine and_congr_right' ⟨?_, fun h => ?_⟩
  · rintro ⟨pairs, hpairs⟩ r hr
    obtain ⟨p, -, hzone, -⟩ := hpairs.exists_of_mem_left hr
    exact ⟨p.1.1, hzone⟩
  · induction readings with
    | nil => exact ⟨[], .nil⟩
    | cons r readings ih =>
      obtain ⟨⟨zoneId, hzone⟩, h⟩ := List.forall_mem_cons.1 h
      obtain ⟨pairs, hpairs⟩ := ih h
      exact ⟨((zoneId, r.gasType), r.timestamp) :: pairs, .cons ⟨hzone, rfl, rfl⟩ hpairs⟩

/-- The pairs that are grouped: a reading's zone, gas type and time. -/
theorem map_zonePairs {startTime : String} {readings : List (GeneratedReading R Uuid)}
    {pairs : List ((Uuid × String) × DateTime)} (h : zonePairs T startTime readings = .ok pairs) :
    readings.map (fun r => (T.uuidOfStr r.zoneKey, r.timestamp.instant)) =
      pairs.map fun p => (some p.1.1, p.2.instant) := by
  rw [← List.forall₂_eq_eq_eq, List.forall₂_map_left_iff, List.forall₂_map_right_iff]
  refine (zonePairs_eq_ok.1 h).2.imp fun r p ⟨hzone, _, htime⟩ => ?_
  rw [T.uuid_eq_ok.1 hzone, htime]

end

/-! ## A builder run -/

section
variable [Field R] [LinearOrder R] [IsStrictOrderedRing R] [FloorRing R] [DecidableEq Uuid]
  {M : Math R} {T : Text R Uuid} {db db' : Db R Uuid} {scenario : Scenario R}

omit [IsStrictOrderedRing R] in
theorem persistBuilderScenario_ok {readings : List (GeneratedReading R Uuid)}
    (h : persistBuilderScenario M T scenario db = .ok (([], readings), db')) :
    generateSensorReadings M T scenario = .ok readings := by
  unfold persistBuilderScenario at h
  rw [Transaction.get_bind] at h
  obtain ⟨errors, -, h⟩ := Transaction.lift_bind_eq_ok.1 h
  split at h
  · rename_i herrors
    cases h
    exact absurd rfl herrors
  · obtain ⟨readings', db₁, hpersist, h⟩ := Transaction.bind_eq_ok.1 h
    cases h
    obtain ⟨readings', hr, h⟩ := Transaction.lift_bind_eq_ok.1 hpersist
    obtain ⟨_, _, -, h⟩ := Transaction.bind_eq_ok.1 h
    obtain ⟨_, -, h⟩ := Transaction.lift_bind_eq_ok.1 h
    obtain ⟨_, _, -, h⟩ := Transaction.bind_eq_ok.1 h
    cases h
    exact hr

theorem executeRuns_ok {runs : List (ZoneRun R Uuid)}
    (h : executeRuns M T scenario db = (.ok ([], runs), db')) :
    ∃ readings db₁, generateSensorReadings M T scenario = .ok readings ∧
      runZones M T scenario.startTime readings db₁ = (.ok runs, db') := by
  obtain ⟨⟨errors, readings⟩, db₁, hpersist, h⟩ := Service.bind_eq_ok.1 h
  dsimp only at h
  split at h
  · rename_i herrors
    cases h
    exact absurd rfl herrors
  · rename_i herrors
    rw [not_not.1 herrors] at hpersist
    obtain ⟨runs', db₂, hruns, h⟩ := Service.bind_eq_ok.1 h
    cases h
    exact ⟨readings, db₁, persistBuilderScenario_ok (Service.transaction_eq_ok.1 hpersist), hruns⟩

theorem executeBuilderScenario_ok {result : ScenarioExecutionResult R Uuid}
    (h : executeBuilderScenario M T scenario db = (.ok result, db')) :
    ∃ runs, executeRuns M T scenario db = (.ok (result.errors, runs), db') ∧
      result.zoneResults = runs.filterMap ZoneRun.executionResult := by
  obtain ⟨⟨errors, runs⟩, db₁, hruns, h⟩ := Service.bind_eq_ok.1 h
  cases h
  exact ⟨runs, hruns, rfl⟩

omit [FloorRing R] in
/-- Up to their order the ticks are the readings. -/
theorem runZones_ok {startTime : String} {readings : List (GeneratedReading R Uuid)}
    {runs : List (ZoneRun R Uuid)} (h : runZones M T startTime readings db = (.ok runs, db')) :
    ∃ groups db₁, List.Forall₂ (RunOf T) groups runs ∧ db' = persistAll db₁ (assessments runs) ∧
      ((ticks runs).map fun p => (some p.1, p.2.instant)).Perm
        (readings.map fun r => (T.uuidOfStr r.zoneKey, r.timestamp.instant)) := by
  obtain ⟨pairs, db₁, hpairs, h⟩ := Service.bind_eq_ok.1 h
  obtain ⟨hpairs, -⟩ := Service.lift_eq_ok.1 hpairs
  obtain ⟨hruns, hdb⟩ := runGroups_ok h
  refine ⟨_, db₁, hruns, hdb, ?_⟩
  rw [map_zonePairs hpairs]
  have hperm := (ticks_perm hruns).trans ((Group.group_perm pairs).map fun p => (p.1.1, p.2))
  have hinstants := hperm.map fun p => (some p.1, p.2.instant)
  rw [List.map_map] at hinstants
  exact hinstants

end

/-! ## Nothing lost, nothing repeated -/

/-- No two readings share a zone and an instant. -/
def DistinctInstants (T : Text R Uuid) (readings : List (GeneratedReading R Uuid)) : Prop :=
  (readings.map fun r => (T.uuidOfStr r.zoneKey, r.timestamp.instant)).Nodup

instance [DecidableEq Uuid] (T : Text R Uuid) (readings : List (GeneratedReading R Uuid)) :
    Decidable (DistinctInstants T readings) :=
  inferInstanceAs (Decidable (List.Nodup _))

/-- Each zone and instant of a reading has one tick, the reported ids are distinct, every tick's
assessment is stored as it computed it, and there are as many of these rows as ticks reported. -/
structure NoneLost [DecidableEq Uuid] (T : Text R Uuid) (readings : List (GeneratedReading R Uuid))
    (runs : List (ZoneRun R Uuid)) (zoneResults : List (ZoneExecutionResult R Uuid))
    (db : Db R Uuid) : Prop where
  once : ∀ r ∈ readings, ((ticks runs).map fun p => (some p.1, p.2.instant)).count
    (T.uuidOfStr r.zoneKey, r.timestamp.instant) = 1
  distinct : (zoneResults.flatMap ZoneExecutionResult.assessmentIds).Nodup
  persisted : ∀ a ∈ assessments runs, ∃ row ∈ db.riskAssessments,
    row.assessmentId = a.assessmentId ∧ row.compoundRiskScore = a.compoundRiskScore ∧
      row.tier = a.tier
  written : (db.riskAssessments.rows.filter fun row => (row.assessmentId, row.timestamp) ∈
    (assessments runs).map fun a => (a.assessmentId, a.timestamp)).length =
      (zoneResults.map ZoneExecutionResult.tickCount).sum

variable [Field R] [LinearOrder R] [IsStrictOrderedRing R] [FloorRing R] [DecidableEq Uuid]

/-- A builder run that returns loses and repeats nothing iff no two readings share a zone and an
instant. -/
theorem noneLost_iff (M : Math R) (T : Text R Uuid) (hT : Function.Injective T.resolveId)
    {scenario : Scenario R} {db db' : Db R Uuid} {result : ScenarioExecutionResult R Uuid}
    (h : executeBuilderScenario M T scenario db = (.ok result, db')) (haccepted : result.errors = []) :
    ∃ readings runs, generateSensorReadings M T scenario = .ok readings ∧
      executeRuns M T scenario db = (.ok ([], runs), db') ∧
      (NoneLost T readings runs result.zoneResults db' ↔ DistinctInstants T readings) := by
  obtain ⟨runs, hexecute, hresults⟩ := executeBuilderScenario_ok h
  rw [haccepted] at hexecute
  obtain ⟨readings, db₁, hreadings, hzones⟩ := executeRuns_ok hexecute
  obtain ⟨groups, db₂, hruns, rfl, hperm⟩ := runZones_ok hzones
  refine ⟨readings, runs, hreadings, hexecute, ?_⟩
  rw [hresults]
  constructor
  · intro hnone
    rw [DistinctInstants, ← hperm.nodup_iff, List.nodup_iff_count_eq_one]
    intro p hp
    obtain ⟨r, hr, rfl⟩ := List.mem_map.1 (hperm.mem_iff.1 hp)
    exact hnone.once r hr
  · intro hdistinct
    have hinstants := hperm.nodup_iff.2 hdistinct
    have hids : ((assessments runs).map RiskAssessment.assessmentId).Nodup := by
      have hmap := congrArg (List.map Prod.fst) (assessmentIds_eq hruns)
      rw [List.map_map, List.map_map] at hmap
      exact (congrArg List.Nodup hmap).mpr
        ((List.nodup_map_iff (deriveAssessmentId_injective hT)).2 hinstants.of_map)
    have hkeys : ((assessments runs).map fun a => (a.assessmentId, a.timestamp)).Nodup :=
      List.Nodup.of_map Prod.fst (by rwa [List.map_map])
    have hstored : ∀ a ∈ assessments runs, a ∈ (persistAll db₂ (assessments runs)).riskAssessments := by
      intro a ha
      rw [persistAll_riskAssessments]
      exact (Table.mem_foldl_upsert hkeys).2 (.inl ha)
    refine ⟨fun r hr => ?_, ?_, fun a ha => ⟨a, hstored a ha, rfl, rfl, rfl⟩, ?_⟩
    · exact List.nodup_iff_count_eq_one.1 hinstants _
        (hperm.mem_iff.2 (List.mem_map_of_mem hr))
    · rw [reportedIds_eq]
      exact hids
    · rw [tickCount_sum hruns]
      refine (Table.length_filter_key hkeys (fun k hk => ?_) fun row => decide_eq_true_iff).trans ?_
      · obtain ⟨a, ha, rfl⟩ := List.mem_map.1 hk
        exact ⟨a, hstored a ha, rfl⟩
      · rw [assessmentIds_eq hruns, List.length_map]

/-- Gas in zone 1, one reading a minute for two minutes. -/
def gasEvent (name : String) (simTime : ℚ) : SensorEvent ℚ where
  name := name
  zoneKey := "1"
  gasType := "CO"
  simTime := simTime
  durationMinutes := 1
  curve := "linear_ramp"
  params := [("start_value", 5), ("slope", 1)]
  sampleIntervalMinutes := 1

/-- Two events, the second one `simTime` minutes later. -/
def twoEvents (simTime : ℚ) : Scenario ℚ where
  seed := 1
  startTime := "0+0"
  sensorEvents := [gasEvent "first" 0, gasEvent "second" simTime]

/-- Events that overlap in one reading: four ticks, three ids and three rows. -/
theorem overlapping_events_repeat : ∃ result db',
    executeBuilderScenario Math.dyadic plainText (twoEvents 1) Runtime.plant = (.ok result, db') ∧
      result.errors = [] ∧ (result.zoneResults.map ZoneExecutionResult.tickCount).sum = 4 ∧
        ¬(result.zoneResults.flatMap ZoneExecutionResult.assessmentIds).Nodup ∧
          db'.riskAssessments.rows.length = 3 := by
  have hok : (executeBuilderScenario Math.dyadic plainText (twoEvents 1)
      Runtime.plant).1.toOption.map (fun result => (result.errors,
        (result.zoneResults.map ZoneExecutionResult.tickCount).sum,
          decide (result.zoneResults.flatMap ZoneExecutionResult.assessmentIds).Nodup)) =
      some ([], 4, false) := by decide +kernel
  have hrows : (executeBuilderScenario Math.dyadic plainText (twoEvents 1)
      Runtime.plant).2.riskAssessments.rows.length = 3 := by decide +kernel
  obtain ⟨result, hresult, hvalues⟩ := Except.toOption_map_eq_some.1 hok
  obtain ⟨herrors, hticks⟩ := Prod.mk.inj hvalues
  obtain ⟨hticks, hids⟩ := Prod.mk.inj hticks
  exact ⟨result, _, Prod.ext hresult rfl, herrors, hticks, of_decide_eq_false hids, hrows⟩

end ScenarioBuilder
