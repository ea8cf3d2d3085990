import IndustrialSafety.Lib.Lockstep
import IndustrialSafety.Orchestrator.Proof.Counterfactual
import IndustrialSafety.Services.Proof.Builder
import IndustrialSafety.Services.Proof.Range

/-!
# The comparator beside the tick

A tick is its compound part (`compoundTick`), then the comparator on the latest reading of the zone and
gas (`runZoneTick_compound`).

* `live_counterfactual`: the verdict of a tick is the one as of its time iff the latest reading has the
  value of the latest one up to that time.
* `tick_handsOver_iff`: a tick whose compound part succeeds hands its result over iff the comparator
  accepts the latest reading.
* `run_ignores_comparator`: while the comparator accepts what it reads, a run is the run without it.
-/

namespace RiskPipeline

open Py Scheduler Tiering

variable {R Uuid : Type} [Field R] [LinearOrder R] [IsStrictOrderedRing R] [DecidableEq Uuid]

/-- A tick without the comparator. -/
def compoundTick (M : Math R) (T : Text R Uuid) (zoneId : Uuid) (gasType : String)
    (simTime : DateTime) (tickId : Nat) (cache : AgentCache R) (tierState : TierState R) :
    Service Exc (Db R Uuid) (Evaluation R Uuid) :=
  Service.transaction do
    let db ← get
    let evaluation ← evaluateTick M T db zoneId gasType simTime tickId cache tierState
    let _ ← RiskAssessmentRepository.create evaluation.assessment
    pure evaluation

section
variable {M : Math R} {T : Text R Uuid} {zoneId : Uuid} {gasType : String} {simTime : DateTime}
  {tickId : Nat} {cache : AgentCache R} {tierState : TierState R} {db db' : Db R Uuid}
  {e : Evaluation R Uuid}

theorem compoundTick_eq_ok :
    compoundTick M T zoneId gasType simTime tickId cache tierState db = (.ok e, db') ↔
      evaluateTick M T db zoneId gasType simTime tickId cache tierState = .ok e ∧
        (db.zones.get? zoneId).isSome ∧ db' = persist db e.assessment :=
  Service.transaction_eq_ok.trans persistTick_eq_ok

/-- What the comparator makes of the database, with what the compound part computed. -/
def compare (T : Text R Uuid) (db : Db R Uuid) (zoneId : Uuid) (gasType : String)
    (simTime : Instant) (e : Evaluation R Uuid) : Result (RiskPipelineResult R Uuid) :=
  (Counterfactual.evaluate T zoneId simTime
    (ContextBuilders.buildCounterfactualReadings T db zoneId [gasType] none)).map
      (⟨e.assessment, e.cache, e.tierState, ·⟩)

/-- The comparator runs after the commit, and writes nothing. -/
theorem runZoneTick_compound
    (h : compoundTick M T zoneId gasType simTime tickId cache tierState db = (.ok e, db')) :
    runZoneTick M T zoneId gasType simTime tickId cache tierState db =
      (compare T db zoneId gasType simTime.instant e, db') := by
  have hdb : db' = persist db e.assessment := (compoundTick_eq_ok.1 h).2.2
  show (compoundTick M T zoneId gasType simTime tickId cache tierState >>= _) db = _
  rw [Service.bind_apply, h, compare]
  -- the assessment is not among what the comparator reads
  have hreads : ContextBuilders.buildCounterfactualReadings T db zoneId [gasType] none =
      ContextBuilders.buildCounterfactualReadings T db' zoneId [gasType] none := by
    rw [hdb]
    rfl
  rw [hreads]
  show (_ >>= _ : Service Exc (Db R Uuid) _) db' = _
  rw [Service.bind_apply]
  show (_ >>= _ : Service Exc (Db R Uuid) _) db' = _
  rw [Service.bind_apply]
  generalize Counterfactual.evaluate T zoneId simTime.instant _ = verdict
  cases verdict <;> rfl

theorem runZoneTick_failed {x : Exc}
    (h : compoundTick M T zoneId gasType simTime tickId cache tierState db = (.error x, db')) :
    runZoneTick M T zoneId gasType simTime tickId cache tierState db = (.error x, db') := by
  show (compoundTick M T zoneId gasType simTime tickId cache tierState >>= _) db = _
  rw [Service.bind_apply, h]

end

/-! ## What the comparator reads -/

section
variable {T : Text R Uuid} {zoneId : Uuid} {gasType : String} {db : Db R Uuid}
  {asOf : Option Instant}

/-- The latest reading ever, or the latest one up to a time. -/
def comparedReading (db : Db R Uuid) (zoneId : Uuid) (gasType : String) :
    Option Instant → Option (SensorReading R Uuid)
  | none => SensorReadingRepository.latest db zoneId gasType
  | some before => (SensorReadingRepository.recent db zoneId gasType before 1).head?

omit [Field R] [LinearOrder R] [IsStrictOrderedRing R] in
theorem comparedReading_mem {r : SensorReading R Uuid}
    (h : comparedReading db zoneId gasType asOf = some r) : r ∈ db.sensorReadings := by
  cases asOf with
  | none => exact List.mem_of_mem_filter (Query.latest_mem h)
  | some before => exact List.mem_of_mem_filter (Query.mem_of_mem_recent (List.mem_of_mem_head? h))

omit [Field R] [LinearOrder R] [IsStrictOrderedRing R] in
/-- Without a later reading the latest one is the latest one up to the time. -/
theorem comparedReading_asOf {before : Instant} (h : ∀ r ∈ db.sensorReadings, r.zoneId = zoneId →
    r.gasType = gasType → r.timestamp ≤ before) :
    comparedReading db zoneId gasType (some before) = comparedReading db zoneId gasType none := by
  have hfilter : (db.sensorReadings.rows.filter fun r =>
      r.zoneId = zoneId ∧ r.gasType = gasType ∧ r.timestamp ≤ before) =
        db.sensorReadings.rows.filter fun r => r.zoneId = zoneId ∧ r.gasType = gasType := by
    refine List.filter_congr fun r hr => ?_
    have := h r hr
    simp only [decide_eq_decide]
    tauto
  show (SensorReadingRepository.recent db zoneId gasType before 1).head? =
    SensorReadingRepository.latest db zoneId gasType
  rw [SensorReadingRepository.recent, SensorReadingRepository.latest, ← hfilter,
    Query.head?_recent_one]

omit [Field R] [LinearOrder R] [IsStrictOrderedRing R] in
theorem readings_eq : ContextBuilders.buildCounterfactualReadings T db zoneId [gasType] asOf =
    ((SensorRepository.getByZoneAndGas db zoneId gasType).bind fun sensor =>
      (comparedReading db zoneId gasType asOf).map fun latest =>
        ⟨T.uuidStr sensor.sensorId, latest.value, sensor.alarmThreshold⟩).toList := by
  have hone : ∀ {α β : Type} (f : α → Option β) (a : α), [a].filterMap f = (f a).toList := by
    intro α β f a
    rw [List.filterMap_cons, List.filterMap_nil]
    cases f a <;> rfl
  unfold ContextBuilders.buildCounterfactualReadings
  rw [hone]
  cases SensorRepository.getByZoneAndGas db zoneId gasType with
  | none => rfl
  | some sensor =>
    cases asOf with
    | none =>
      show (Option.bind (SensorReadingRepository.latest db zoneId gasType) _).toList = _
      rw [comparedReading]
      cases SensorReadingRepository.latest db zoneId gasType <;> rfl
    | some before =>
      show (Option.bind (SensorReadingRepository.recent db zoneId gasType before 1).head? _).toList = _
      rw [comparedReading]
      cases (SensorReadingRepository.recent db zoneId gasType before 1).head? <;> rfl

/-- The comparator accepts the reading it would see. -/
def ComparatorAccepts (db : Db R Uuid) (zoneId : Uuid) (gasType : String) (asOf : Option Instant) :
    Prop :=
  ∀ sensor ∈ SensorRepository.getByZoneAndGas db zoneId gasType,
    ∀ r ∈ comparedReading db zoneId gasType asOf, 0 < sensor.alarmThreshold ∧ 0 ≤ r.value

omit [IsStrictOrderedRing R] in
theorem readings_valid_iff : (∀ r ∈ ContextBuilders.buildCounterfactualReadings T db zoneId
    [gasType] asOf, r.Valid) ↔ ComparatorAccepts db zoneId gasType asOf := by
  unfold ComparatorAccepts
  cases hs : SensorRepository.getByZoneAndGas db zoneId gasType with
  | none => simp [readings_eq, hs]
  | some sensor =>
    cases hr : comparedReading db zoneId gasType asOf <;>
      simp [readings_eq, hs, hr, Counterfactual.CounterfactualReading.Valid]

end

/-! ## The verdict of a tick and the verdict as of its time -/

/-- The latest reading of the zone's sensor has the value of the latest one up to the time, or there
is neither. -/
def SameLatest (db : Db R Uuid) (zoneId : Uuid) (gasType : String) (simTime : Instant) : Prop :=
  (SensorRepository.getByZoneAndGas db zoneId gasType).isSome →
    (SensorReadingRepository.latest db zoneId gasType).map SensorReading.value =
      (SensorReadingRepository.recent db zoneId gasType simTime 1).head?.map SensorReading.value

theorem runZoneTick_counterfactual {M : Math R} {T : Text R Uuid} {zoneId : Uuid}
    {gasType : String} {simTime : DateTime} {tickId : Nat} {cache : AgentCache R}
    {tierState : TierState R} {db db' : Db R Uuid} {result : RiskPipelineResult R Uuid}
    (h : runZoneTick M T zoneId gasType simTime tickId cache tierState db = (.ok result, db')) :
    ∃ e, compoundTick M T zoneId gasType simTime tickId cache tierState db = (.ok e, db') ∧
      compare T db zoneId gasType simTime.instant e = .ok result := by
  rcases hc : compoundTick M T zoneId gasType simTime tickId cache tierState db with ⟨x | e, db₁⟩
  · rw [runZoneTick_failed hc] at h
    cases h
  · rw [runZoneTick_compound hc] at h
    obtain ⟨hresult, rfl⟩ := Prod.mk.inj h
    exact ⟨e, rfl, hresult⟩

/-- **The live verdict is the verdict as of the tick's time iff the latest reading has the value of the
latest one up to that time**; so it is when no later reading is stored. -/
theorem live_counterfactual (M : Math R) (T : Text R Uuid) {db db' : Db R Uuid}
    (hthreshold : ∀ s ∈ db.sensors, 0 < s.alarmThreshold)
    (hvalue : ∀ r ∈ db.sensorReadings, 0 ≤ r.value) {zoneId : Uuid} {gasType : String}
    {simTime : DateTime} {tickId : Nat} {cache : AgentCache R} {tierState : TierState R}
    {result : RiskPipelineResult R Uuid}
    (h : runZoneTick M T zoneId gasType simTime tickId cache tierState db = (.ok result, db')) :
    ∃ asOf, Counterfactual.evaluate T zoneId simTime.instant
        (ContextBuilders.buildCounterfactualReadings T db zoneId [gasType]
          (some simTime.instant)) = .ok asOf ∧
      (result.counterfactual = asOf ↔ SameLatest db zoneId gasType simTime.instant) ∧
      ((∀ r ∈ db.sensorReadings, r.zoneId = zoneId → r.gasType = gasType →
        r.timestamp ≤ simTime.instant) → result.counterfactual = asOf) := by
  have haccepts : ∀ asOf, ComparatorAccepts db zoneId gasType asOf := fun asOf sensor hs r hr =>
    ⟨hthreshold sensor (List.mem_of_find?_eq_some hs), hvalue r (comparedReading_mem hr)⟩
  obtain ⟨e, -, hcompare⟩ := runZoneTick_counterfactual h
  obtain ⟨live, hlive, rfl⟩ := Except.map_eq_ok.1 hcompare
  obtain ⟨-, rfl⟩ := Counterfactual.evaluate_eq_ok.1 hlive
  refine ⟨_, Counterfactual.evaluate_eq_ok.2 ⟨readings_valid_iff.2 (haccepts _), rfl⟩, ?_⟩
  cases hs : SensorRepository.getByZoneAndGas db zoneId gasType with
  | none =>
    refine ⟨?_, fun _ => ?_⟩
    · simp [readings_eq, hs, SameLatest]
    · simp [readings_eq, hs]
  | some sensor =>
    have ht : 0 < sensor.alarmThreshold := hthreshold sensor (List.mem_of_find?_eq_some hs)
    have hreadings : ∀ asOf, ContextBuilders.buildCounterfactualReadings T db zoneId [gasType] asOf =
        (((comparedReading db zoneId gasType asOf).map SensorReading.value).map
          (⟨T.uuidStr sensor.sensorId, ·, sensor.alarmThreshold⟩)).toList := by
      intro asOf
      rw [readings_eq, hs, Option.map_map]
      rfl
    simp only [hreadings]
    refine ⟨?_, fun hlater => by rw [comparedReading_asOf hlater]⟩
    rw [SameLatest, hs, Counterfactual.verdict_inj ht]
    exact ⟨fun h _ => h, fun h => h rfl⟩

/-- The plant with a reading of 5 at time 0. -/
def reading5 : Db ℚ ℕ :=
  { Runtime.plant with sensorReadings := Table.empty.upsert ⟨5, 7, 1, "CO", 5, "ppm", 0, "ok"⟩ }

/-- A reading of 20 an hour later. -/
def risingReadings : Db ℚ ℕ :=
  { reading5 with
    sensorReadings := reading5.sensorReadings.upsert ⟨6, 7, 1, "CO", 20, "ppm", 3600000000, "ok"⟩ }

theorem live_counterfactual_reading5 : ∃ result : RiskPipelineResult ℚ ℕ,
    (runZoneTick Math.dyadic plainText 1 "CO" ⟨0, 0⟩ 0 {} TierState.initial reading5).1 =
      .ok result ∧
    Counterfactual.evaluate plainText 1 0 (ContextBuilders.buildCounterfactualReadings plainText
      reading5 1 ["CO"] (some 0)) = .ok result.counterfactual := by
  have hreturns : (runZoneTick Math.dyadic plainText 1 "CO" ⟨0, 0⟩ 0 {} TierState.initial
      reading5).1.toOption.isSome := by decide +kernel
  obtain ⟨result, hr⟩ := Option.isSome_iff_exists.1 hreturns
  rw [Except.toOption_eq_some] at hr
  have hthreshold : ∀ s ∈ reading5.sensors, 0 < s.alarmThreshold := by decide +kernel
  have hvalue : ∀ r ∈ reading5.sensorReadings, 0 ≤ r.value := by decide +kernel
  obtain ⟨asOf, hasOf, -, hsame⟩ :=
    live_counterfactual Math.dyadic plainText hthreshold hvalue (Prod.ext hr rfl)
  refine ⟨result, hr, ?_⟩
  rw [hsame (by decide +kernel)]
  exact hasOf

/-- The live verdict sees a reading an hour ahead of the tick. -/
theorem live_counterfactual_later : (∀ s ∈ risingReadings.sensors, 0 < s.alarmThreshold) ∧
    (∀ r ∈ risingReadings.sensorReadings, 0 ≤ r.value) ∧
    ∃ (result : RiskPipelineResult ℚ ℕ) (asOf : Counterfactual.CounterfactualResult ℚ ℕ),
      (runZoneTick Math.dyadic plainText 1 "CO" ⟨0, 0⟩ 0 {} TierState.initial risingReadings).1 =
        .ok result ∧
      Counterfactual.evaluate plainText 1 0 (ContextBuilders.buildCounterfactualReadings plainText
        risingReadings 1 ["CO"] (some 0)) = .ok asOf ∧
      result.counterfactual.alert = true ∧ asOf.alert = false := by
  have hlive : (runZoneTick Math.dyadic plainText 1 "CO" ⟨0, 0⟩ 0 {} TierState.initial
      risingReadings).1.toOption.map (fun result => result.counterfactual.alert) = some true := by
    decide +kernel
  have hasOf : (Counterfactual.evaluate plainText 1 0 (ContextBuilders.buildCounterfactualReadings
      plainText risingReadings 1 ["CO"] (some 0))).toOption.map
        Counterfactual.CounterfactualResult.alert = some false := by decide +kernel
  obtain ⟨result, hr, halert⟩ := Except.toOption_map_eq_some.1 hlive
  obtain ⟨asOf, ha, hquiet⟩ := Except.toOption_map_eq_some.1 hasOf
  exact ⟨by decide +kernel, by decide +kernel, result, asOf, hr, ha, halert, hquiet⟩

end RiskPipeline

/-! ## Handing over -/

namespace RiskPipeline

open Py Scheduler Tiering

variable {R Uuid : Type} [Field R] [LinearOrder R] [IsStrictOrderedRing R] [DecidableEq Uuid]
  {M : Math R} {T : Text R Uuid} {zoneId : Uuid} {gasType : String} {simTime : DateTime}
  {tickId : Nat} {cache : AgentCache R} {tierState : TierState R} {db db' : Db R Uuid}
  {e : Evaluation R Uuid}

/-- The result has what the compound part computed. -/
structure Hands (result : RiskPipelineResult R Uuid) (e : Evaluation R Uuid) : Prop where
  assessment : result.assessment = e.assessment
  cache : result.cache = e.cache
  tierState : result.tierState = e.tierState

omit [IsStrictOrderedRing R] in
/-- The comparison is handed over iff the comparator accepts the latest reading. -/
theorem compare_handsOver_iff {t : Instant} :
    (∃ result, compare T db zoneId gasType t e = .ok result ∧ Hands result e) ↔
      ComparatorAccepts db zoneId gasType none := by
  rw [← readings_valid_iff (T := T)]
  constructor
  · intro ⟨result, h, _⟩
    obtain ⟨verdict, hverdict, -⟩ := Except.map_eq_ok.1 h
    exact (Counterfactual.evaluate_eq_ok.1 hverdict).1
  · intro h
    exact ⟨_, Except.map_eq_ok.2 ⟨_, Counterfactual.evaluate_eq_ok.2 ⟨h, rfl⟩, rfl⟩, rfl, rfl, rfl⟩

/-- **A tick whose compound part succeeds hands its result over iff the comparator accepts the latest
reading.** -/
theorem tick_handsOver_iff
    (h : compoundTick M T zoneId gasType simTime tickId cache tierState db = (.ok e, db')) :
    (∃ result, (runZoneTick M T zoneId gasType simTime tickId cache tierState db).1 = .ok result ∧
      Hands result e) ↔ ComparatorAccepts db zoneId gasType none := by
  rw [runZoneTick_compound h]
  exact compare_handsOver_iff

/-- A tick of a reading that the comparator accepts is the tick without the comparator. -/
theorem tick_lockstep (h : ComparatorAccepts db zoneId gasType none) :
    Service.Lockstep Eq Hands (runZoneTick M T zoneId gasType simTime tickId cache tierState db)
      (compoundTick M T zoneId gasType simTime tickId cache tierState db) := by
  rcases hc : compoundTick M T zoneId gasType simTime tickId cache tierState db with ⟨x | e, db'⟩
  · rw [runZoneTick_failed hc]
    exact .error x rfl
  · rw [runZoneTick_compound hc]
    obtain ⟨result, hresult, hhands⟩ := compare_handsOver_iff.2 h
    rw [hresult]
    exact .ok hhands rfl

/-- A tick writes nothing that the comparator reads. -/
theorem compoundTick_reads (M : Math R) (T : Text R Uuid) (zoneId : Uuid) (gasType : String)
    (simTime : DateTime) (tickId : Nat) (cache : AgentCache R) (tierState : TierState R)
    (db : Db R Uuid) :
    (compoundTick M T zoneId gasType simTime tickId cache tierState db).2.sensors = db.sensors ∧
    (compoundTick M T zoneId gasType simTime tickId cache tierState db).2.sensorReadings =
      db.sensorReadings := by
  rcases hc : compoundTick M T zoneId gasType simTime tickId cache tierState db with ⟨x | e, db'⟩
  · have hdb : db' = db := by
      unfold compoundTick Service.transaction at hc
      split at hc
      · cases hc
      · exact (Prod.mk.inj hc).2.symm
    rw [hdb]
    exact ⟨rfl, rfl⟩
  · rw [(compoundTick_eq_ok.1 hc).2.2]
    exact ⟨rfl, rfl⟩

end RiskPipeline

namespace ScenarioBuilder

open Py Simulation RiskPipeline Scheduler Tiering

variable {R Uuid : Type} [Field R] [LinearOrder R] [IsStrictOrderedRing R] [DecidableEq Uuid]

/-! ## A builder run without the comparator -/

/-- `runTicks` without the comparator. -/
def compoundTicks (M : Math R) (T : Text R Uuid) (zoneId : Uuid) (gasType : String) :
    List DateTime → Nat → AgentCache R → TierState R →
      Service Exc (Db R Uuid) (List (Evaluation R Uuid))
  | [], _, _, _ => pure []
  | simTime :: timestamps, tickId, cache, tierState => do
    let e ← compoundTick M T zoneId gasType simTime tickId cache tierState
    let es ← compoundTicks M T zoneId gasType timestamps (tickId + 1) e.cache e.tierState
    pure (e :: es)

/-- `runZones` without the comparator. -/
def compoundZones (M : Math R) (T : Text R Uuid) (startTime : String)
    (readings : List (GeneratedReading R Uuid)) :
    Service Exc (Db R Uuid) (List (List (Evaluation R Uuid))) := do
  let pairs ← zonePairs T startTime readings
  (Group.group pairs).mapM fun group =>
    compoundTicks M T group.1.1 group.1.2 (group.2.insertionSort fun a b => a.instant ≤ b.instant) 0
      {} TierState.initial

/-- `executeRuns` without the comparator. -/
def compoundRuns [FloorRing R] (M : Math R) (T : Text R Uuid) (scenario : Scenario R) :
    Service Exc (Db R Uuid) (List (List (Evaluation R Uuid))) := do
  let (errors, readings) ← Service.transaction (persistBuilderScenario M T scenario)
  if errors ≠ [] then pure []
  else compoundZones M T scenario.startTime readings

/-- The ticks of the runs hand over what the evaluations computed. -/
def HandsAll (runs : List (ZoneRun R Uuid)) (es : List (List (Evaluation R Uuid))) : Prop :=
  List.Forall₂ (fun run => List.Forall₂ Hands run.results) runs es

section
variable {M : Math R} {T : Text R Uuid} {db : Db R Uuid}

/-- One database, which has what the comparator reads of `d`. -/
def SameReads (d s s' : Db R Uuid) : Prop :=
  s = s' ∧ s.sensors = d.sensors ∧ s.sensorReadings = d.sensorReadings

omit [IsStrictOrderedRing R] in
theorem accepts_of_sameReads {d s s' : Db R Uuid} {zoneId : Uuid} {gasType : String}
    {asOf : Option Instant} (hs : SameReads d s s') (h : ComparatorAccepts d zoneId gasType asOf) :
    ComparatorAccepts s zoneId gasType asOf := by
  unfold ComparatorAccepts comparedReading SensorRepository.getByZoneAndGas
    SensorReadingRepository.latest SensorReadingRepository.recent
  rw [hs.2.1, hs.2.2]
  exact h

theorem ticks_lockstep {d s s' : Db R Uuid} {zoneId : Uuid} {gasType : String}
    (h : ComparatorAccepts d zoneId gasType none) (timestamps : List DateTime) (tickId : Nat)
    (cache : AgentCache R) (tierState : TierState R) (hs : SameReads d s s') :
    Service.Lockstep (SameReads d) (List.Forall₂ Hands)
      (runTicks M T zoneId gasType timestamps tickId cache tierState s)
      (compoundTicks M T zoneId gasType timestamps tickId cache tierState s') := by
  induction timestamps generalizing tickId cache tierState s s' with
  | nil => exact .pure .nil hs
  | cons simTime timestamps ih =>
    obtain ⟨rfl, hsensors, hreadings⟩ := hs
    have htick : Service.Lockstep (SameReads d) Hands
        (runZoneTick M T zoneId gasType simTime tickId cache tierState s)
        (compoundTick M T zoneId gasType simTime tickId cache tierState s) := by
      have hreads := compoundTick_reads M T zoneId gasType simTime tickId cache tierState s
      have hl : Service.Lockstep Eq Hands
          (runZoneTick M T zoneId gasType simTime tickId cache tierState s)
          (compoundTick M T zoneId gasType simTime tickId cache tierState s) :=
        tick_lockstep (accepts_of_sameReads ⟨rfl, hsensors, hreadings⟩ h)
      generalize compoundTick M T zoneId gasType simTime tickId cache tierState s = q at hl hreads
      generalize runZoneTick M T zoneId gasType simTime tickId cache tierState s = p at hl
      cases hl with
      | ok hrel hst =>
        subst hst
        exact .ok hrel ⟨rfl, hreads.1.trans hsensors, hreads.2.trans hreadings⟩
      | error x hst =>
        subst hst
        exact .error x ⟨rfl, hreads.1.trans hsensors, hreads.2.trans hreadings⟩
    refine Service.Lockstep.bind htick fun result e _ _ _ _ hhands hs => ?_
    rw [hhands.cache, hhands.tierState]
    exact Service.Lockstep.bind (ih _ _ _ hs) fun results es _ _ _ _ hall hs =>
      .pure (.cons hhands hall) hs

/-- The pairs are computed before the first tick. -/
theorem runZones_apply (startTime : String) (readings : List (GeneratedReading R Uuid))
    (db : Db R Uuid) : runZones M T startTime readings db = match zonePairs T startTime readings with
      | .ok pairs => (Group.group pairs).mapM (runZone M T) db
      | .error e => (.error e, db) := by
  show (liftM (zonePairs T startTime readings) >>= _ : Service Exc (Db R Uuid) _) db = _
  rw [Service.bind_apply]
  cases zonePairs T startTime readings <;> rfl

theorem zones_lockstep {d : Db R Uuid} {startTime : String}
    {readings : List (GeneratedReading R Uuid)}
    (h : ∀ r ∈ readings, ∀ zoneId, T.uuid r.zoneKey = .ok zoneId →
      ComparatorAccepts d zoneId r.gasType none) :
    Service.Lockstep (SameReads d) HandsAll (runZones M T startTime readings d)
      (compoundZones M T startTime readings d) := by
  rw [runZones_apply]
  show Service.Lockstep _ _ _ ((liftM (zonePairs T startTime readings) >>= _ : Service Exc (Db R Uuid) _) d)
  rw [Service.bind_apply]
  cases hpairs : zonePairs T startTime readings with
  | error e => exact .error e ⟨rfl, rfl, rfl⟩
  | ok pairs =>
    have hgroup : ∀ g ∈ Group.group pairs, ComparatorAccepts d g.1.1 g.1.2 none := by
      intro g hg
      obtain ⟨p, hp, hkey⟩ := List.mem_map.1 (Group.mem_group_keys.1 (List.mem_map_of_mem hg))
      obtain ⟨r, hr, hzone, hgas, -⟩ := mem_zonePairs hpairs hp
      rw [← hkey, ← hgas]
      exact h r hr _ (T.uuid_eq_ok.2 hzone)
    refine Service.Lockstep.mapM (fun g hg s s' hs => ?_) ⟨rfl, rfl, rfl⟩
    have haccepts := hgroup g hg
    obtain ⟨⟨zoneId, gasType⟩, timestamps⟩ := g
    show Service.Lockstep _ _ ((runTicks M T zoneId gasType _ 0 {} TierState.initial >>= _) s) _
    exact Service.Lockstep.bind_left (ticks_lockstep haccepts _ 0 {} TierState.initial hs)
      fun results es _ _ hands hs => .ok hands hs

theorem runs_lockstep [FloorRing R] {scenario : Scenario R}
    (h : ∀ readings d, persistBuilderScenario M T scenario db = .ok (([], readings), d) →
      ∀ r ∈ readings, ∀ zoneId, T.uuid r.zoneKey = .ok zoneId →
        ComparatorAccepts d zoneId r.gasType none) :
    Service.Lockstep Eq (fun runs es => HandsAll runs.2 es) (executeRuns M T scenario db)
      (compoundRuns M T scenario db) := by
  unfold executeRuns compoundRuns
  rw [Service.bind_apply, Service.bind_apply]
  rcases hp : Service.transaction (persistBuilderScenario M T scenario) db with ⟨x | ⟨errors, readings⟩, d⟩
  · exact .error x rfl
  · dsimp only
    by_cases herrors : errors = []
    · subst herrors
      rw [if_neg (by simp), if_neg (by simp)]
      refine Service.Lockstep.bind_left ((zones_lockstep
        (h readings d (Service.transaction_eq_ok.1 hp))).mono (fun _ _ => id) fun _ _ hs => hs.1)
        fun runs es _ _ hands hs => .ok hands hs
    · rw [if_pos herrors, if_pos herrors]
      exact .ok .nil rfl

end

end ScenarioBuilder

/-! ## Runs -/

namespace Runtime

open Py RiskPipeline ScenarioBuilder Scheduler Tiering

variable {R Uuid : Type} [Field R] [LinearOrder R] [IsStrictOrderedRing R] [FloorRing R]
  [DecidableEq Uuid]

/-- `State.next` without the comparator. -/
def State.compoundNext (M : Math R) (T : Text R Uuid) (s : State R Uuid) :
    Action R Uuid → State R Uuid
  | .write (.executeBuilderScenario scenario) => { s with db := (compoundRuns M T scenario s.db).2 }
  | .write w => s.next M T (.write w)
  | .tick thread zoneId gasType simTime tickId =>
    match s.threads[thread]? with
    | none => s
    | some (cache, tierState) =>
      match compoundTick M T zoneId gasType simTime tickId cache tierState s.db with
      | (.ok e, db) => ⟨db, s.threads ++ [(e.cache, e.tierState)]⟩
      | (.error _, db) => { s with db }

/-- `State.run` without the comparator. -/
def State.compoundRun (M : Math R) (T : Text R Uuid) (s : State R Uuid)
    (actions : List (Action R Uuid)) : State R Uuid :=
  actions.foldl (State.compoundNext M T) s

/-- The comparator accepts what the action has it read, if the tick gets that far. A builder run reads
after its scenario is persisted. -/
def Action.Accepted (M : Math R) (T : Text R Uuid) (s : State R Uuid) : Action R Uuid → Prop
  | .tick thread zoneId gasType simTime tickId => ∀ p ∈ s.threads[thread]?,
    (∃ e db, compoundTick M T zoneId gasType simTime tickId p.1 p.2 s.db = (.ok e, db)) →
      ComparatorAccepts s.db zoneId gasType none
  | .write (.executeBuilderScenario scenario) => ∀ readings db,
    persistBuilderScenario M T scenario s.db = .ok (([], readings), db) →
      ∀ r ∈ readings, ∀ zoneId, T.uuid r.zoneKey = .ok zoneId →
        ComparatorAccepts db zoneId r.gasType none
  | _ => True

/-- Every tick of the action whose compound part succeeds hands over what that part computed. -/
def Action.HandsOver (M : Math R) (T : Text R Uuid) (s : State R Uuid) : Action R Uuid → Prop
  | .tick thread zoneId gasType simTime tickId => ∀ p ∈ s.threads[thread]?, ∀ e db,
    compoundTick M T zoneId gasType simTime tickId p.1 p.2 s.db = (.ok e, db) →
      ∃ result, (runZoneTick M T zoneId gasType simTime tickId p.1 p.2 s.db).1 = .ok result ∧
        Hands result e
  | .write (.executeBuilderScenario scenario) => Service.Lockstep Eq
    (fun runs es => HandsAll runs.2 es) (executeRuns M T scenario s.db)
      (compoundRuns M T scenario s.db)
  | _ => True

section
variable {M : Math R} {T : Text R Uuid} {s : State R Uuid} {a : Action R Uuid}

theorem handsOver_of_accepted (h : a.Accepted M T s) : a.HandsOver M T s := by
  cases a with
  | tick thread zoneId gasType simTime tickId =>
    intro p hp e db he
    exact (tick_handsOver_iff he).2 (h p hp ⟨e, db, he⟩)
  | write w =>
    cases w with
    | executeBuilderScenario scenario => exact runs_lockstep h
    | _ => trivial

/-- The result of a builder run is computed from its ticks. -/
theorem executeBuilderScenario_state (scenario : Simulation.Scenario R) (db : Db R Uuid) :
    (Write.call M T (.executeBuilderScenario scenario) db).2 = (executeRuns M T scenario db).2 := by
  show ((executeRuns M T scenario >>= _ >>= _) db).2 = _
  rw [Service.bind_apply, Service.bind_apply]
  rcases executeRuns M T scenario db with ⟨x | runs, d⟩ <;> rfl

theorem next_eq_compoundNext (h : a.Accepted M T s) : s.next M T a = s.compoundNext M T a := by
  cases a with
  | tick thread zoneId gasType simTime tickId =>
    have hands := handsOver_of_accepted h
    simp only [State.next, State.compoundNext]
    rcases hthread : s.threads[thread]? with _ | ⟨cache, tierState⟩
    · rfl
    · rcases hc : compoundTick M T zoneId gasType simTime tickId cache tierState s.db with ⟨x | e, db⟩
      · simp only [runZoneTick_failed hc, hc]
      · obtain ⟨result, hresult, hhands⟩ := hands (cache, tierState) hthread e db hc
        rw [runZoneTick_compound hc] at hresult
        replace hresult : compare T s.db zoneId gasType simTime.instant e = .ok result := hresult
        simp only [runZoneTick_compound hc, hc, hresult, hhands.cache, hhands.tierState]
  | write w =>
    cases w with
    | executeBuilderScenario scenario =>
      show State.mk (Write.call M T (.executeBuilderScenario scenario) s.db).2 s.threads =
        ⟨(compoundRuns M T scenario s.db).2, s.threads⟩
      rw [executeBuilderScenario_state, (runs_lockstep h).state]
    | _ => rfl

/-- **While the comparator accepts what it reads, every tick hands its result over and the run is the
run without the comparator.** -/
theorem run_ignores_comparator (M : Math R) (T : Text R Uuid) (s : State R Uuid)
    (actions : List (Action R Uuid))
    (h : Run.Along (State.next M T) (fun s a => a.Accepted M T s) s actions) :
    Run.Along (State.next M T) (fun s a => a.HandsOver M T s) s actions ∧
      s.run M T actions = s.compoundRun M T actions := by
  induction actions generalizing s with
  | nil => exact ⟨trivial, rfl⟩
  | cons a actions ih =>
    obtain ⟨hands, hrun⟩ := ih (s.next M T a) h.2
    refine ⟨⟨handsOver_of_accepted h.1, hands⟩, hrun.trans ?_⟩
    rw [next_eq_compoundNext h.1]
    rfl

end

/-- A tick of zone 1, `minute` minutes on, with the state of the given thread. -/
def tickCO (thread : Nat) (minute : Int) : Action ℚ ℕ :=
  .tick thread 1 "CO" ⟨minute * 60000000, 0⟩ thread

/-- Two ticks after a reading of 20. -/
theorem run_ignores_comparator_twenty :
    (State.seeded plant).run Math.dyadic plainText [ingestTwenty, tickCO 0 0, tickCO 1 1] =
      (State.seeded plant).compoundRun Math.dyadic plainText
        [ingestTwenty, tickCO 0 0, tickCO 1 1] := by
  have haccepts : ∀ db ∈ [(State.seeded plant).run Math.dyadic plainText [ingestTwenty],
      (State.seeded plant).run Math.dyadic plainText [ingestTwenty, tickCO 0 0]].map State.db,
      ComparatorAccepts db 1 "CO" none := by
    unfold ComparatorAccepts
    decide +kernel
  have halong : Run.Along (State.next Math.dyadic plainText)
      (fun s a => a.Accepted Math.dyadic plainText s) (State.seeded plant)
      [ingestTwenty, tickCO 0 0, tickCO 1 1] :=
    ⟨trivial, fun _ _ _ => haccepts _ (.head _), fun _ _ _ => haccepts _ (.tail _ (.head _)),
      trivial⟩
  exact (run_ignores_comparator Math.dyadic plainText _ _ halong).2

/-- A reading of the given value in zone 1, an hour on. -/
def ingestLater (value : ℚ) : Action ℚ ℕ :=
  .write (.ingestReading 5 7 value (some "ppm") ⟨3600000000, 0⟩ "ok")

/-- A negative reading that only the comparator sees: the compound part of the first tick of a builder
run succeeds, the call raises, and the three ticks left are not made. -/
theorem negative_reading_stops_run :
    (∃ e db, compoundTick Math.dyadic plainText 1 "CO" ⟨0, 0⟩ 0 {} TierState.initial
      ((State.seeded plant).run Math.dyadic plainText [ingestLater (-1)]).db = (.ok e, db)) ∧
    (∀ result, (runZoneTick Math.dyadic plainText 1 "CO" ⟨0, 0⟩ 0 {} TierState.initial
      ((State.seeded plant).run Math.dyadic plainText [ingestLater (-1)]).db).1 ≠ .ok result) ∧
    ((State.seeded plant).run Math.dyadic plainText [ingestLater 1,
      .write (.executeBuilderScenario (twoEvents 2))]).db.riskAssessments.rows.map
        (fun a => (a.timestamp, a.tier)) =
      [(0, .normal), (60000000, .normal), (120000000, .normal), (180000000, .normal)] ∧
    ((State.seeded plant).run Math.dyadic plainText [ingestLater (-1),
      .write (.executeBuilderScenario (twoEvents 2))]).db.riskAssessments.rows.map
        (fun a => (a.timestamp, a.tier)) = [(0, .normal)] := by
  have hcompound : (compoundTick Math.dyadic plainText 1 "CO" ⟨0, 0⟩ 0 {} TierState.initial
      ((State.seeded plant).run Math.dyadic plainText [ingestLater (-1)]).db).1.toOption.isSome := by
    decide +kernel
  have hraises : (runZoneTick Math.dyadic plainText 1 "CO" ⟨0, 0⟩ 0 {} TierState.initial
      ((State.seeded plant).run Math.dyadic plainText
        [ingestLater (-1)]).db).1.toOption.isSome = false := by decide +kernel
  obtain ⟨e, he⟩ := Option.isSome_iff_exists.1 hcompound
  rw [Except.toOption_eq_some] at he
  refine ⟨⟨e, _, Prod.ext he rfl⟩, fun result hresult => ?_, by decide +kernel, by decide +kernel⟩
  rw [hresult] at hraises
  cases hraises

end Runtime
