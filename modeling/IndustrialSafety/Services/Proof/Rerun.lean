import IndustrialSafety.Services.Proof.Persist
import IndustrialSafety.Services.Proof.ZoneRows

/-!
# Running a scenario again

A second run right after the first merges the same readings and permits, and each of its ticks writes
over the row of the first run's tick. What a tick reads besides is the latest assessment of the adjacent
zones, and the second run finds there what the first one left of a zone not replayed yet. So the second
run is the first one if no zone interferes with one replayed with it or later
(`executeBuilderScenario_again`).
-/

namespace ScenarioBuilder

open Py Simulation SimulationRunner RiskPipeline Scheduler Tiering

variable {R Uuid : Type} [Field R] [LinearOrder R] [DecidableEq Uuid]

/-- No zone interferes with itself or a later one. -/
def SeesNoLater (db : Db R Uuid) (zones : List Uuid) : Prop :=
  (∀ z ∈ zones, ¬Interferes db z z) ∧ zones.Pairwise fun z w => ¬Interferes db z w

instance (db : Db R Uuid) (zones : List Uuid) : Decidable (SeesNoLater db zones) :=
  inferInstanceAs (Decidable (_ ∧ _))

/-! ## The ticks again -/

section
variable {T : Text R Uuid} {A B s s' : Db R Uuid} {Z : Uuid → Prop}

/-- The runs of `A` and of `B` made the same writes, and no zone outside `Z` differs from `B`. -/
def Behind (T : Text R Uuid) (A B : Db R Uuid) (Z : Uuid → Prop) (s s' : Db R Uuid) : Prop :=
  ∃ done : List (RiskAssessment R Uuid), s = persistAll A done ∧ s' = persistAll B done ∧
    (∀ a ∈ done, IsTick T a) ∧ ∀ w, ¬Z w → zoneRows s w = zoneRows B w

omit [Field R] [LinearOrder R] in
/-- The rows of a zone that is not to be replayed any more are the same in both runs. -/
theorem Behind.zoneRows_eq (hT : Function.Injective T.resolveId) (hA : OwnIds T A) (hB : OwnIds T B)
    (h : Behind T A B Z s s') {w : Uuid} (hw : ¬Z w) : zoneRows s' w = zoneRows s w := by
  obtain ⟨done, rfl, rfl, hdone, hrows⟩ := h
  have hrow := hrows w hw
  rw [zoneRows_persistAll hT hB hdone, ← hrow, zoneRows_persistAll hT hA hdone,
    Table.foldl_upsert_again]

theorem Behind.sameQueries (hT : Function.Injective T.resolveId) (hA : OwnIds T A)
    (hB : Ticked T (fun _ => True) A B) (h : Behind T A B Z s s') {zoneId : Uuid}
    (hquiet : ∀ w, Z w → ¬Interferes A zoneId w) (gasType : String) :
    SameQueries s s' zoneId gasType := by
  have hrows : ∀ w, ¬Z w → zoneRows s' w = zoneRows s w := fun w =>
    h.zoneRows_eq hT hA (hB.own hT hA)
  obtain ⟨done, rfl, rfl, -, -⟩ := h
  obtain ⟨all, rfl, -⟩ := hB
  rw [persistAll_eq A done] at hrows ⊢
  rw [← persistAll_append, persistAll_eq A (all ++ done)] at hrows ⊢
  refine ⟨⟨rfl, rfl, rfl, rfl, rfl⟩, fun _ _ => rfl, rfl, .refl _, ?_⟩
  refine conflicts_congr ⟨rfl, rfl, rfl, rfl, rfl⟩ (fun _ => .refl _) fun w hw => ?_
  exact latestByZone_congr (hrows w fun hZ => hquiet w hZ hw)

omit [Field R] [LinearOrder R] in
theorem Behind.kept (hT : Function.Injective T.resolveId) (hA : OwnIds T A) {zoneId : Uuid}
    (hZ : Z zoneId) : KeptByTicks T (Behind T A B Z) zoneId := by
  intro s s' a simTime h hzone htime hid
  obtain ⟨done, rfl, rfl, hdone, hrows⟩ := h
  have ha : IsTick T a := ⟨simTime, htime, hzone ▸ hid⟩
  have happend : ∀ db : Db R Uuid, persist (persistAll db done) a = persistAll db (done ++ [a]) :=
    fun db => (persistAll_append db done [a]).symm
  refine ⟨done ++ [a], happend A, happend B, ?_, fun w hw => ?_⟩
  · exact List.forall_mem_append.2 ⟨hdone, fun b hb => List.mem_singleton.1 hb ▸ ha⟩
  · have hne : a.zoneId ≠ w := by
      intro h
      rw [← h, hzone] at hw
      exact hw hZ
    rw [zoneRows_persist hT (hA.persistAll hT hdone) ha hne]
    exact hrows w hw

omit [Field R] [LinearOrder R] in
theorem Behind.mono {Z' : Uuid → Prop} (h : Behind T A B Z s s') (hZ : ∀ z, Z z → Z' z) :
    Behind T A B Z' s s' := by
  obtain ⟨done, hs, hs', hdone, hrows⟩ := h
  exact ⟨done, hs, hs', hdone, fun w hw => hrows w fun h => hw (hZ w h)⟩

end

section
variable [IsStrictOrderedRing R] {M : Math R} {T : Text R Uuid} {A B : Db R Uuid}

/-- What is left of the first run ends in `B`; the same groups from `B` on make the same ticks. -/
theorem groups_again (hT : Function.Injective T.resolveId) (hA : OwnIds T A)
    (hB : Ticked T (fun _ => True) A B) {groups : List ((Uuid × String) × List DateTime)}
    (hquiet : SeesNoLater A (groups.map fun g => g.1.1)) {done : List (RiskAssessment R Uuid)}
    (hdone : ∀ a ∈ done, IsTick T a)
    (hrun : (groups.mapM (runZone M T) (persistAll A done)).2 = B) :
    Service.Lockstep (Behind T A B fun _ => True) (List.Forall₂ ZoneRun.Alike)
      (groups.mapM (runZone M T) (persistAll A done))
      (groups.mapM (runZone M T) (persistAll B done)) := by
  induction groups generalizing done with
  | nil => exact .ok .nil ⟨done, rfl, rfl, hdone, fun w hw => absurd trivial hw⟩
  | cons g groups ih =>
    obtain ⟨hself, hlater⟩ := hquiet
    rw [List.map_cons, List.pairwise_cons] at hlater
    rw [List.map_cons, List.forall_mem_cons] at hself
    -- the rest of the run leaves every zone that it does not replay as it is
    have hbehind : Behind T A B (· ∈ (g :: groups).map fun g => g.1.1) (persistAll A done)
        (persistAll B done) := by
      refine ⟨done, rfl, rfl, hdone, fun w hw => ?_⟩
      have hticked := runGroups_ticked (M := M) (T := T)
        (Z := (· ∈ (g :: groups).map fun g => g.1.1)) (fun g hg => List.mem_map_of_mem hg)
        (persistAll A done)
      rw [hrun] at hticked
      exact (hticked.zoneRows_eq hT (hA.persistAll hT hdone) hw).symm
    have hnone : ∀ w ∈ (g :: groups).map (fun g => g.1.1), ¬Interferes A g.1.1 w := by
      intro w hw
      rw [List.map_cons, List.mem_cons] at hw
      rcases hw with rfl | hw
      · exact hself.1
      · exact hlater.1 w hw
    have hzone : Service.Lockstep (Behind T A B (· ∈ (g :: groups).map fun g => g.1.1)) ZoneRun.Alike
        (runZone M T g (persistAll A done)) (runZone M T g (persistAll B done)) :=
      runZone_alike (Behind.kept hT hA (by simp))
        (fun _ _ hs => hs.sameQueries hT hA hB hnone g.1.2) rfl rfl hbehind
    replace hzone := hzone.mono (fun _ _ => id) fun s s' hs => hs.mono fun _ _ => trivial
    rw [List.mapM_cons] at hrun ⊢
    refine Service.Lockstep.bind hzone fun run run' s₁ s₁' hg _ halike hs => ?_
    obtain ⟨done', rfl, rfl, hdone', -⟩ := hs
    have hrest : (groups.mapM (runZone M T) (persistAll A done')).2 = B := by
      rw [← hrun, Service.bind_apply, hg]
      show _ = ((groups.mapM (runZone M T) >>= _ : Service Exc (Db R Uuid) _) _).2
      rw [Service.bind_apply]
      rcases groups.mapM (runZone M T) (persistAll A done') with ⟨x | runs, d⟩ <;> rfl
    refine Service.Lockstep.bind (ih ⟨hself.2, hlater.2⟩ hdone' hrest)
      fun runs runs' _ _ _ _ hruns hs => ?_
    exact .pure (.cons halike hruns) hs

end

/-! ## A builder run -/

/-- What a run reports. -/
def report (p : List String × List (ZoneRun R Uuid)) : ScenarioExecutionResult R Uuid where
  errors := p.1
  startTime := (p.2.flatMap fun run => run.timestamps.map DateTime.instant).min?
  endTime := (p.2.flatMap fun run => run.timestamps.map DateTime.instant).max?
  zoneResults := p.2.filterMap ZoneRun.executionResult

omit [Field R] [LinearOrder R] [DecidableEq Uuid] in
theorem report_alike {errors : List String} {runs runs' : List (ZoneRun R Uuid)}
    (h : List.Forall₂ ZoneRun.Alike runs runs') : report (errors, runs') = report (errors, runs) := by
  have hruns : (runs'.flatMap fun run => run.timestamps.map DateTime.instant) =
        (runs.flatMap fun run => run.timestamps.map DateTime.instant) ∧
      runs'.filterMap ZoneRun.executionResult = runs.filterMap ZoneRun.executionResult := by
    induction h with
    | nil => exact ⟨rfl, rfl⟩
    | cons hr _ ih =>
      rw [List.flatMap_cons, List.flatMap_cons, List.filterMap_cons, List.filterMap_cons, ih.1, ih.2,
        hr.timestamps, hr.executionResult_eq]
      exact ⟨rfl, rfl⟩
  unfold report
  rw [hruns.1, hruns.2]

variable [IsStrictOrderedRing R] [FloorRing R] {M : Math R} {T : Text R Uuid}
  {scenario : Scenario R} {db : Db R Uuid}

theorem executeBuilderScenario_apply (M : Math R) (T : Text R Uuid) (scenario : Scenario R)
    (db : Db R Uuid) : executeBuilderScenario M T scenario db =
      ((executeRuns M T scenario db).1.map report, (executeRuns M T scenario db).2) := by
  unfold executeBuilderScenario
  rw [Service.bind_apply]
  rcases executeRuns M T scenario db with ⟨x | ⟨errors, runs⟩, d⟩ <;> rfl

/-- The ticks of the groups, from a database in which the scenario is persisted. -/
def replay (M : Math R) (T : Text R Uuid) (startTime : String)
    (readings : List (GeneratedReading R Uuid)) :
    Service Exc (Db R Uuid) (List String × List (ZoneRun R Uuid)) := do
  let runs ← runZones M T startTime readings
  pure ([], runs)

theorem executeRuns_apply (M : Math R) (T : Text R Uuid) (scenario : Scenario R) (db : Db R Uuid) :
    executeRuns M T scenario db = match persistBuilderScenario M T scenario db with
      | .ok ((errors, readings), d) =>
        if errors ≠ [] then (.ok (errors, []), d)
        else replay M T scenario.startTime readings d
      | .error e => (.error e, db) := by
  unfold executeRuns
  rw [Service.bind_apply]
  unfold Service.transaction
  rcases persistBuilderScenario M T scenario db with e | ⟨⟨errors, readings⟩, d⟩
  · rfl
  · dsimp only
    split <;> rfl

section
variable {scenario : Scenario R} {d : Db R Uuid} {errors : List String}
  {readings : List (GeneratedReading R Uuid)}

/-- A scenario that cannot be persisted. -/
theorem execute_unpersisted {e : Exc} (h : persistBuilderScenario M T scenario db = .error e) :
    executeBuilderScenario M T scenario db = (.error e, db) := by
  rw [executeBuilderScenario_apply, executeRuns_apply, h]
  rfl

/-- A scenario that is persisted with errors. -/
theorem execute_refused (h : persistBuilderScenario M T scenario db = .ok ((errors, readings), d))
    (herrors : errors ≠ []) : executeBuilderScenario M T scenario db = (.ok (report (errors, [])), d) := by
  rw [executeBuilderScenario_apply, executeRuns_apply, h]
  dsimp only
  rw [if_pos herrors]
  rfl

/-- A scenario that is persisted without errors is replayed. -/
theorem execute_persisted (h : persistBuilderScenario M T scenario db = .ok (([], readings), d)) :
    executeBuilderScenario M T scenario db = ((replay M T scenario.startTime readings d).1.map report,
      (replay M T scenario.startTime readings d).2) := by
  rw [executeBuilderScenario_apply, executeRuns_apply, h]
  dsimp only
  rw [if_neg (by simp)]

end

/-- The groups that a scenario replays, in their order. -/
def replayed (M : Math R) (T : Text R Uuid) (scenario : Scenario R) :
    Result (List ((Uuid × String) × List DateTime)) := do
  let readings ← generateSensorReadings M T scenario
  let pairs ← zonePairs T scenario.startTime readings
  pure (Group.group pairs)

omit [FloorRing R] in
theorem replay_apply (startTime : String) (readings : List (GeneratedReading R Uuid)) (d : Db R Uuid) :
    replay M T startTime readings d = match zonePairs T startTime readings with
      | .ok pairs => (((Group.group pairs).mapM (runZone M T) d).1.map fun runs => ([], runs),
          ((Group.group pairs).mapM (runZone M T) d).2)
      | .error e => (.error e, d) := by
  unfold replay
  rw [Service.bind_apply, runZones_apply]
  cases zonePairs T startTime readings with
  | error e => rfl
  | ok pairs =>
    dsimp only
    rcases (Group.group pairs).mapM (runZone M T) d with ⟨x | runs, d'⟩ <;> rfl

omit [FloorRing R] in
/-- A replay returns iff its groups do. -/
theorem replay_eq_ok {startTime : String} {readings : List (GeneratedReading R Uuid)} {d d' : Db R Uuid}
    {out : List String × List (ZoneRun R Uuid)} : replay M T startTime readings d = (.ok out, d') ↔
      ∃ pairs runs, zonePairs T startTime readings = .ok pairs ∧
        (Group.group pairs).mapM (runZone M T) d = (.ok runs, d') ∧ out = ([], runs) := by
  rw [replay_apply]
  constructor
  · intro h
    cases hpairs : zonePairs T startTime readings with
    | error e =>
      rw [hpairs] at h
      cases h
    | ok pairs =>
      rw [hpairs] at h
      dsimp only at h
      rcases hruns : (Group.group pairs).mapM (runZone M T) d with ⟨e | runs, d''⟩ <;> rw [hruns] at h <;>
        cases h
      exact ⟨pairs, runs, rfl, hruns, rfl⟩
  · rintro ⟨pairs, runs, hpairs, hruns, rfl⟩
    rw [hpairs]
    dsimp only
    rw [hruns]
    rfl

omit [FloorRing R] in
/-- A replay only writes assessments. -/
theorem replay_effect (M : Math R) (T : Text R Uuid) (startTime : String)
    (readings : List (GeneratedReading R Uuid)) (d : Db R Uuid) :
    ∃ as, (replay M T startTime readings d).2 = persistAll d as := by
  rw [replay_apply]
  cases zonePairs T startTime readings with
  | error e => exact ⟨[], rfl⟩
  | ok pairs =>
    obtain ⟨as, has, -⟩ : Ticked T (fun _ => True) d ((Group.group pairs).mapM (runZone M T) d).2 :=
      runGroups_ticked (fun _ _ => trivial) d
    exact ⟨as, has⟩

omit [FloorRing R] in
/-- Replaying once more, from where the first replay ended. -/
theorem replay_again (hT : Function.Injective T.resolveId) (hown : OwnIds T db)
    {startTime : String} {readings : List (GeneratedReading R Uuid)}
    (hquiet : ∀ pairs, zonePairs T startTime readings = .ok pairs →
      SeesNoLater db ((Group.group pairs).map fun g => g.1.1)) :
    ((replay M T startTime readings (replay M T startTime readings db).2).1.map report,
      (replay M T startTime readings (replay M T startTime readings db).2).2) =
    ((replay M T startTime readings db).1.map report, (replay M T startTime readings db).2) := by
  rw [replay_apply startTime readings db]
  cases hpairs : zonePairs T startTime readings with
  | error e => rw [replay_apply, hpairs]
  | ok pairs =>
    dsimp only
    have hticked : Ticked T (fun _ => True) db ((Group.group pairs).mapM (runZone M T) db).2 :=
      runGroups_ticked (fun _ _ => trivial) db
    have hnone : ∀ a ∈ ([] : List (RiskAssessment R Uuid)), IsTick T a := fun _ h => by
      cases h
    have hlockstep := groups_again (M := M) hT hown hticked (hquiet pairs hpairs) hnone rfl
    rw [replay_apply, hpairs]
    dsimp only
    change Service.Lockstep _ _ ((Group.group pairs).mapM (runZone M T) db)
      ((Group.group pairs).mapM (runZone M T) ((Group.group pairs).mapM (runZone M T) db).2)
      at hlockstep
    -- the second run writes what the first one wrote
    have hstate : ((Group.group pairs).mapM (runZone M T)
        ((Group.group pairs).mapM (runZone M T) db).2).2 =
          ((Group.group pairs).mapM (runZone M T) db).2 := by
      obtain ⟨done, hfirst, hsecond, -, -⟩ := hlockstep.state
      rw [hsecond, hfirst, persistAll_again]
    rw [hstate]
    generalize (Group.group pairs).mapM (runZone M T) db = p at hlockstep
    generalize (Group.group pairs).mapM (runZone M T) p.2 = q at hlockstep
    cases hlockstep with
    | error e _ => rfl
    | ok halike _ =>
      show (Except.ok (report _), _) = (Except.ok (report _), _)
      rw [report_alike halike]

/-- **Running a scenario again changes no reading and no permit; and it changes nothing at all and reports
the same if no zone interferes with one replayed with it or later.** -/
theorem executeBuilderScenario_again (M : Math R) (T : Text R Uuid) (scenario : Scenario R)
    (db : Db R Uuid) :
    let first := executeBuilderScenario M T scenario db
    let second := executeBuilderScenario M T scenario first.2
    second.2.sensorReadings = first.2.sensorReadings ∧ second.2.permits = first.2.permits ∧
      (Function.Injective T.resolveId → OwnIds T db →
        (∀ groups, replayed M T scenario = .ok groups →
          SeesNoLater first.2 (groups.map fun g => g.1.1)) → second = first) := by
  intro first second
  have hrefused : first.2 = db → second.2.sensorReadings = first.2.sensorReadings ∧
      second.2.permits = first.2.permits ∧ (Function.Injective T.resolveId → OwnIds T db →
        (∀ groups, replayed M T scenario = .ok groups →
          SeesNoLater first.2 (groups.map fun g => g.1.1)) → second = first) := by
    intro hdb
    have hsame : second = first := congrArg (executeBuilderScenario M T scenario) hdb
    rw [hsame]
    exact ⟨rfl, rfl, fun _ _ _ => rfl⟩
  rcases hp : persistBuilderScenario M T scenario db with e | ⟨⟨errors, readings⟩, d⟩
  · exact hrefused (congrArg Prod.snd (execute_unpersisted hp))
  rcases persistBuilderScenario_eq_ok.1 hp with ⟨-, hne, -, rfl⟩ | ⟨hvalid, rfl, hpersist⟩
  · exact hrefused (congrArg Prod.snd (execute_refused hp hne))
  have hfirst : first = _ := execute_persisted hp
  obtain ⟨ps, args, hpersists, hd⟩ := persistScenario_eq_ok.1 hpersist
  -- the second run persists the scenario in the database that the first one left
  have hend : first.2 = (replay M T scenario.startTime readings d).2 := congrArg Prod.snd hfirst
  obtain ⟨as, has⟩ := replay_effect M T scenario.startTime readings d
  rw [has, persistAll_eq, hd] at hend
  have hstatic : SameStatic db first.2 := by
    rw [hend]
    exact ⟨rfl, rfl, rfl, rfl, rfl⟩
  obtain ⟨hpersists', hsame⟩ := hpersists.again hstatic (by rw [hend]) (by rw [hend])
  have hp' : persistBuilderScenario M T scenario first.2 = .ok (([], readings), first.2) :=
    persistBuilderScenario_eq_ok.2 (.inr ⟨(validateBuilderScenario_static hstatic).trans hvalid, rfl,
      persistScenario_eq_ok.2 ⟨ps, args, hpersists', hsame.symm⟩⟩)
  have hsecond : second = _ := execute_persisted hp'
  have hend' : first.2 = (replay M T scenario.startTime readings d).2 := congrArg Prod.snd hfirst
  obtain ⟨as', has'⟩ := replay_effect M T scenario.startTime readings first.2
  refine ⟨?_, ?_, fun hT hown hquiet => ?_⟩
  · rw [hsecond, has', persistAll_eq]
  · rw [hsecond, has', persistAll_eq]
  · rw [hsecond, hend', hfirst]
    refine replay_again hT ?_ fun pairs hpairs => ?_
    · rw [hd]
      exact hown
    · have hgroups : replayed M T scenario = .ok (Group.group pairs) := by
        unfold replayed
        rw [hpersists.generated]
        show (zonePairs T scenario.startTime readings >>= _ : Result _) = _
        rw [hpairs]
        rfl
      have hseen := hquiet _ hgroups
      rw [hend] at hseen
      rw [hd]
      exact hseen

/-- An open permit since time 0. -/
def openPermit (permitId zoneId : ℕ) (permitType : String) : Permit ℚ ℕ where
  permitId := permitId
  permitType := permitType
  zoneId := zoneId
  issuedAt := 0
  expiresAt := 7200000000
  authorizingOfficerId := 9
  baselineSnapshot := ⟨some 1, some 1, some 30, some 1, some "0+0"⟩
  status := .active

/-- The plant with a sensor in zone 2, hot work in zone 1 and a confined space in zone 2. -/
def incompatibleZones : Db ℚ ℕ :=
  { Runtime.plant with
    sensors := Runtime.plant.sensors.upsert ⟨10, 2, "CO", none, 10⟩
    permits := (Table.empty.upsert (openPermit 3 1 "hot_work")).upsert
      (openPermit 4 2 "confined_space") }

/-- Two readings of one value, a minute apart. -/
def steadyEvent (name zoneKey : String) (simTime value : ℚ) : SensorEvent ℚ where
  name := name
  zoneKey := zoneKey
  gasType := "CO"
  simTime := simTime
  durationMinutes := 1
  curve := "linear_ramp"
  params := [("start_value", value), ("slope", 0)]
  sampleIntervalMinutes := 1

/-- Little gas in zone 1 and much in zone 2, from the given minutes on. -/
def gasInBothZones (simTime simTime' : ℚ) : Scenario ℚ where
  seed := 1
  startTime := "0+0"
  sensorEvents := [steadyEvent "low" "1" simTime 1, steadyEvent "high" "2" simTime' 20]

/-- Zone 2 is replayed first. -/
theorem executeBuilderScenario_again_in_order :
    let first := executeBuilderScenario Math.dyadic plainText (gasInBothZones 1 0) incompatibleZones
    executeBuilderScenario Math.dyadic plainText (gasInBothZones 1 0) first.2 = first := by
  have hquiet : (replayed Math.dyadic plainText (gasInBothZones 1 0)).toOption.map (fun groups =>
      decide (SeesNoLater (executeBuilderScenario Math.dyadic plainText (gasInBothZones 1 0)
        incompatibleZones).2 (groups.map fun g => g.1.1))) = some true := by decide +kernel
  refine (executeBuilderScenario_again Math.dyadic plainText (gasInBothZones 1 0)
    incompatibleZones).2.2 (plain_resolveId_injective _) (fun _ h => nomatch h) fun groups hgroups => ?_
  rw [hgroups] at hquiet
  exact of_decide_eq_true (Option.some.inj hquiet)

/-- Zone 1 is replayed first: the second run finds what the first one left of zone 2. -/
theorem second_run_sees_later_zone :
    let first := executeBuilderScenario Math.dyadic plainText (gasInBothZones 0 1) incompatibleZones
    let second := executeBuilderScenario Math.dyadic plainText (gasInBothZones 0 1) first.2
    (validateBuilderScenario Math.dyadic plainText incompatibleZones (gasInBothZones 0 1)).toOption =
      some [] ∧ first.1.toOption.isSome ∧ second.1.toOption.isSome ∧
    first.2.riskAssessments.rows.map (fun a => (a.zoneId, a.timestamp, a.compoundRiskScore)) =
      [(1, 0, 4), (1, 60000000, 4), (2, 60000000, 100), (2, 120000000, 100)] ∧
    second.2.riskAssessments.rows.map (fun a => (a.zoneId, a.timestamp, a.compoundRiskScore)) =
      [(1, 0, 31), (1, 60000000, 31), (2, 60000000, 100), (2, 120000000, 100)] := by
  decide +kernel

end ScenarioBuilder
