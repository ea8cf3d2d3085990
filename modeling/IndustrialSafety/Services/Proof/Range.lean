import IndustrialSafety.Lib.Run
import IndustrialSafety.Py.Instances
import IndustrialSafety.Services.Proof.Writes

/-!
# The engine stays on its scales

A database is `Sound` when thresholds are positive, floors in range and readings not negative. A tick on
a sound database, with a cache in range, has every result and its assessment in range
(`evaluateTick_inRange`).
-/

namespace RiskPipeline

open Py Scheduler RiskFormula Tiering

variable {R Uuid : Type} [Field R] [LinearOrder R]

/-- Positive thresholds, floors in `[0, 100]`, no negative reading. -/
structure Sound (db : Db R Uuid) : Prop where
  threshold_pos : ∀ s ∈ db.sensors, 0 < s.alarmThreshold
  floor_range : ∀ z ∈ db.zones, ∀ f, z.elevatedFloorOverride = some f → 0 ≤ f ∧ f ≤ 100
  value_nonneg : ∀ r ∈ db.sensorReadings, 0 ≤ r.value

/-- Every cached result is in range. -/
def CacheInRange (cache : AgentCache R) : Prop :=
  ∀ name r, cache.lastKnownResults name = some r → r.InRange

/-- The persisted numbers are in range. -/
structure ScoreInRange (a : RiskAssessment R Uuid) : Prop where
  score_nonneg : 0 ≤ a.compoundRiskScore
  score_le : a.compoundRiskScore ≤ 100
  confidence_nonneg : 0 ≤ a.confidence
  confidence_le : a.confidence ≤ 1

variable [DecidableEq Uuid] {M : Math R} {T : Text R Uuid} {db : Db R Uuid} {zoneId : Uuid}
  {gasType : String} {tickId : Nat}

theorem gasContext_ok {window : Nat} {simTime : Instant} {results : Results R}
    {input : AgentInput R Uuid} (hdb : Sound db)
    (h : ContextBuilders.makeGasRiskContextBuilder T db gasType window zoneId simTime tickId results =
      .ok input) : GasRisk.ContextOk input.context := by
  unfold ContextBuilders.makeGasRiskContextBuilder at h
  split at h
  · cases h
  · rename_i sensor hsensor
    cases h
    refine ⟨?_, fun f hf => ?_, fun latest hl => ?_⟩
    · rintro t ⟨⟩
      exact hdb.threshold_pos sensor (List.mem_of_find?_eq_some hsensor)
    · obtain ⟨z, hz, hf⟩ := Option.bind_eq_some_iff.1 hf
      exact hdb.floor_range z (Table.get?_eq_some.1 hz).1 f hf
    · obtain ⟨r, hr, rfl⟩ := List.mem_map.1 (List.mem_of_getLast? hl)
      exact hdb.value_nonneg r (List.mem_of_mem_filter (Query.mem_of_mem_recent hr))

omit [Field R] [LinearOrder R] in
theorem permitInput_upstream {simTime : Instant} {results : Results R} {input : AgentInput R Uuid}
    {stale : Bool} (h : ContextBuilders.makePermitIntelligenceContextBuilder T db stale zoneId simTime
      tickId results = .ok input) : input.upstreamResults = results := by
  obtain ⟨permits, -, h⟩ := Except.bind_eq_ok.1 h
  cases h
  rfl

variable [IsStrictOrderedRing R]

theorem decayConfidence_inRange {simTime : Instant} {config : SchedulerConfig R} {r : AgentResult R}
    (hl : 0 ≤ config.stalenessDecayLambda) (h : r.InRange) :
    (decayConfidenceForStaleness M r simTime config).InRange := by
  have hd0 := (M.decay_pos config.stalenessDecayLambda
    (max (minutes (simTime - r.computedAt)) 0)).le
  have hd1 := M.decay_le_one hl (le_max_right (minutes (simTime - r.computedAt)) (0 : R))
  exact ⟨h.risk_nonneg, h.risk_le, mul_nonneg h.confidence_nonneg hd0,
    mul_le_one₀ h.confidence_le hd0 hd1⟩

theorem zoneCall_inRange {simTime : Instant} {cache cache' : AgentCache R} {results : Results R}
    (hdb : Sound db) (hcache : CacheInRange cache)
    (h : (zoneCall M T db zoneId gasType simTime tickId).run M (schedulerConfig M) cache =
      .ok (results, cache')) :
    (∀ name r, results name = some r → r.InRange) ∧ CacheInRange cache' := by
  have hl : 0 ≤ (schedulerConfig M).stalenessDecayLambda :=
    div_nonneg M.ln2_pos.le (by norm_num)
  refine zoneCall_all (fun r => decayConfidence_inRange hl)
    (fun a ha seen hseen r hr => and_self_iff.2 ?_) hcache h
  simp only [List.mem_cons, List.not_mem_nil, or_false] at ha
  rcases ha with rfl | rfl | rfl | rfl <;> obtain ⟨input, hi, hr⟩ := Except.bind_eq_ok.1 hr
  · exact GasRisk.evaluate_inRange (gasContext_ok hdb hi) hr
  · exact EquipmentStatus.evaluate_inRange hr
  · -- Permit Intelligence takes over the confidence of the gas result it sees
    refine PermitIntelligence.evaluate_inRange (fun g hg => ?_) hr
    rw [permitInput_upstream hi] at hg
    exact ⟨(hseen _ g hg).confidence_nonneg, (hseen _ g hg).confidence_le⟩
  · exact WorkerExposure.evaluate_inRange hr

/-- **A tick on a sound database, with a cache in range, is in range.** -/
theorem evaluateTick_inRange {simTime : DateTime} {cache : AgentCache R} {tierState : TierState R}
    {e : Evaluation R Uuid} (hdb : Sound db) (hcache : CacheInRange cache)
    (h : evaluateTick M T db zoneId gasType simTime tickId cache tierState = .ok e) :
    (∀ name r, e.agentResults name = some r → r.InRange) ∧ CacheInRange e.cache ∧
      ScoreInRange e.assessment := by
  obtain ⟨f, hc⟩ := evaluateTick_ok h
  obtain ⟨hresults, hcache'⟩ := zoneCall_inRange hdb hcache hc.run
  refine ⟨hresults, hcache', ?_⟩
  obtain ⟨g, e', p, w, hfour⟩ := run_fourResults rfl zoneCall_built hc.run
  obtain ⟨f', hf, hfused⟩ := hfour.fuse zoneId simTime.instant
  cases hc.fuse.symm.trans hf
  have hrange : ∀ p' ∈ (fusionConfig : FusionConfig R).agentWeights, (four g e' p w p'.1).InRange :=
    fun p' hp' => hresults _ _ (hfour.weights p' hp')
  obtain ⟨hscore, hscore'⟩ : 0 ≤ f.compoundRiskScore ∧ f.compoundRiskScore ≤ 100 := by
    rw [hfused.score]
    exact compound_range default_nonneg fun p' hp' => (hrange p' hp').risk_nonneg
  obtain ⟨p', hp', hconf⟩ := hfused.confidence_mem
  rw [← hc.score] at hscore hscore'
  rw [← hc.confidence] at hconf
  exact ⟨hscore, hscore', hconf ▸ (hrange p' hp').confidence_nonneg,
    hconf ▸ (hrange p' hp').confidence_le⟩

end RiskPipeline

/-! ## Runs -/

namespace Runtime

open Py RiskPipeline

variable {R Uuid : Type} [Field R] [LinearOrder R] [DecidableEq Uuid] {A : Allowed R Uuid}
  {db db' : Db R Uuid}

/-- Writes without a negative reading keep a database sound. -/
theorem sound_writes (hA : ∀ row, A.reading row → 0 ≤ row.value) (h : Writes A db db')
    (hdb : Sound db) : Sound db' := by
  refine Writes.induction h (fun db row hdb hrow => ⟨hdb.1, hdb.2, fun r hr => ?_⟩)
    (fun _ _ hdb _ => ⟨hdb.1, hdb.2, hdb.3⟩) (fun _ _ hdb _ => ⟨hdb.1, hdb.2, hdb.3⟩) hdb
  rcases Table.mem_upsert.1 hr with rfl | ⟨hr, -⟩
  · exact hA r hrow
  · exact hdb.value_nonneg r hr

/-- Readings that are not negative; any permit and assessment. -/
def nonnegative (R Uuid : Type) [Field R] [LinearOrder R] : Allowed R Uuid :=
  ⟨fun row => 0 ≤ row.value, fun _ _ => True, fun _ => True⟩

variable [FloorRing R] {M : Math R} {T : Text R Uuid}

/-- No value that the action gives to a reading is negative. A builder run checks this itself. -/
def Action.NonNegative (M : Math R) (T : Text R Uuid) : Action R Uuid → Prop
  | .write (.ingestReading _ _ value _ _ _) => 0 ≤ value
  | .write (.ingestCsvFile rows) => ∀ p ∈ rows, ∀ reading : LiveIngestion.CsvReading R Uuid,
    LiveIngestion.parseRow T p.1 = .ok reading → 0 ≤ reading.value
  | .write (.runScenario scenario) => ∀ readings,
    Simulation.generateSensorReadings M T scenario = .ok readings → ∀ r ∈ readings, 0 ≤ r.value
  | _ => True

variable [IsStrictOrderedRing R]

omit [IsStrictOrderedRing R] in
theorem fits_nonnegative {w : Write R Uuid} (h : (Action.write w).NonNegative M T) :
    w.Fits (nonnegative R Uuid) M T db := by
  cases w with
  | ingestReading => exact fun row hrow => h.trans_eq hrow.symm
  | ingestCsvFile => exact fun p hp reading hr row hrow => (h p hp reading hr).trans_eq hrow.symm
  | runScenario =>
    refine fun _ _ => ⟨fun readings hr r hr' row hrow => ?_, fun _ _ _ _ _ _ _ _ _ => trivial⟩
    exact (h readings hr r hr').trans_eq hrow.symm
  | executeBuilderScenario =>
    refine ⟨fun _ => trivial, fun hvalid =>
      ⟨fun readings hr r hr' row hrow => ?_, fun _ _ _ _ _ _ _ _ _ => trivial⟩⟩
    exact (ScenarioBuilder.validateBuilderScenario_nonneg hvalid hr r hr').trans_eq hrow.symm
  | updateStatus => exact fun _ _ _ _ => trivial

/-- A sound database, and caches in range. -/
structure State.InRange (s : State R Uuid) : Prop where
  sound : Sound s.db
  caches : ∀ p ∈ s.threads, CacheInRange p.1

theorem next_inRange {s : State R Uuid} {a : Action R Uuid} (hs : s.InRange)
    (ha : a.NonNegative M T) : (s.next M T a).InRange := by
  cases a with
  | write w =>
    exact ⟨sound_writes (fun _ h => h) (Write.call_writes (fits_nonnegative ha)) hs.sound,
      hs.caches⟩
  | tick thread zoneId gasType simTime tickId =>
    simp only [State.next]
    split
    · exact hs
    · rename_i cache tierState hthread
      have hcache := hs.caches _ (List.mem_of_getElem? hthread)
      have hsound : Sound (runZoneTick M T zoneId gasType simTime tickId cache tierState s.db).2 :=
        sound_writes (A := nonnegative R Uuid) (fun _ h => h)
          (runZoneTick_writes (fun _ => trivial) _ _ _ _ _ _ _) hs.sound
      split
      · rename_i result db' hrun
        rw [hrun] at hsound
        obtain ⟨e, he, -, -, hc, -⟩ := runZoneTick_ok hrun
        refine ⟨hsound, fun p hp => ?_⟩
        rcases List.mem_append.1 hp with hp | hp
        · exact hs.caches p hp
        · cases List.mem_singleton.1 hp
          exact hc ▸ (evaluateTick_inRange hs.sound hcache he).2.1
      · rename_i e db' hrun
        rw [hrun] at hsound
        exact ⟨hsound, hs.caches⟩

theorem run_inRange {s : State R Uuid} {actions : List (Action R Uuid)} (hs : s.InRange)
    (h : ∀ a ∈ actions, a.NonNegative M T) : (s.run M T actions).InRange :=
  (Run.along_of_forall h).invariant (fun _ _ => next_inRange) hs

/-- **Without a negative value every tick of every run is in range.** -/
theorem ticks_inRange (M : Math R) (T : Text R Uuid) {seed : Db R Uuid} (hseed : Sound seed)
    {actions : List (Action R Uuid)} (hactions : ∀ a ∈ actions, a.NonNegative M T)
    {cache : Scheduler.AgentCache R} {tierState : Tiering.TierState R}
    (hthread : (cache, tierState) ∈ ((State.seeded seed).run M T actions).threads)
    (zoneId : Uuid) (gasType : String) (simTime : DateTime) (tickId : Nat) {e : Evaluation R Uuid}
    (h : evaluateTick M T ((State.seeded seed).run M T actions).db zoneId gasType simTime tickId
      cache tierState = .ok e) :
    (∀ name r, e.agentResults name = some r → r.InRange) ∧ ScoreInRange e.assessment := by
  have hinit : (State.seeded seed).InRange := by
    refine ⟨hseed, fun p hp => ?_⟩
    cases List.mem_singleton.1 hp
    rintro name r ⟨⟩
  have hrun := run_inRange hinit hactions
  obtain ⟨hresults, -, hscore⟩ := evaluateTick_inRange hrun.sound (hrun.caches _ hthread) h
  exact ⟨hresults, hscore⟩

theorem plant_sound : Sound plant :=
  ⟨by decide +kernel, by decide +kernel, by decide +kernel⟩

/-- A reading of 20 at time 0. -/
def ingestTwenty : Action ℚ ℕ := .write (.ingestReading 5 7 20 (some "ppm") ⟨0, 0⟩ "ok")

/-- A reading at twice the threshold. -/
theorem ticks_inRange_twenty : ∃ e, evaluateTick Math.dyadic plainText
    ((State.seeded plant).run Math.dyadic plainText [ingestTwenty]).db 1 "CO" ⟨0, 0⟩ 0 {}
      Tiering.TierState.initial = .ok e ∧ ScoreInRange e.assessment := by
  have hok : (evaluateTick Math.dyadic plainText
      ((State.seeded plant).run Math.dyadic plainText [ingestTwenty]).db 1 "CO" ⟨0, 0⟩ 0 {}
        Tiering.TierState.initial).toOption.map (fun _ => ()) = some () := by decide +kernel
  obtain ⟨e, he, -⟩ := Except.toOption_map_eq_some.1 hok
  have hnonneg : ∀ a ∈ [ingestTwenty], a.NonNegative Math.dyadic plainText := by
    intro a ha
    cases List.mem_singleton.1 ha
    exact show (0 : ℚ) ≤ 20 by norm_num
  exact ⟨e, he, (ticks_inRange Math.dyadic plainText plant_sound hnonneg (.head _) 1 "CO" ⟨0, 0⟩ 0
    he).2⟩

/-- A reading of -10 at time 0. -/
def ingestNegative : Action ℚ ℕ := .write (.ingestReading 5 7 (-10) (some "ppm") ⟨0, 0⟩ "ok")

/-- A negative reading is ingested, and takes the gas risk to -300 and the persisted score to -120. -/
theorem negative_reading_out_of_range : Sound plant ∧ ∃ e, evaluateTick Math.dyadic plainText
    ((State.seeded plant).run Math.dyadic plainText [ingestNegative]).db 1 "CO" ⟨0, 0⟩ 0 {}
      Tiering.TierState.initial = .ok e ∧
    (e.agentResults "gas_risk").map AgentResult.risk = some (-300) ∧
    e.assessment.compoundRiskScore = -120 := by
  have hok : (evaluateTick Math.dyadic plainText
      ((State.seeded plant).run Math.dyadic plainText [ingestNegative]).db 1 "CO" ⟨0, 0⟩ 0 {}
        Tiering.TierState.initial).toOption.map (fun e =>
          ((e.agentResults "gas_risk").map AgentResult.risk, e.assessment.compoundRiskScore)) =
      some (some (-300), -120) := by decide +kernel
  obtain ⟨e, he, hvalues⟩ := Except.toOption_map_eq_some.1 hok
  obtain ⟨hrisk, hscore⟩ := Prod.mk.inj hvalues
  exact ⟨plant_sound, e, he, hrisk, hscore⟩

end Runtime
