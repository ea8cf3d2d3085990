import IndustrialSafety.Db.Proof.Writes
import IndustrialSafety.Py.Instances
import IndustrialSafety.Services.Proof.RiskPipeline
import IndustrialSafety.Services.Runtime

/-!
# What a tick depends on

A tick reads the static tables, the readings up to its time, the open permits of its zone and of the
adjacent ones and each adjacent zone's latest assessment (`SameView`); two databases that agree on these
get the same row (`tick_view`). The permits and the latest assessments are not cut off at the tick's
time, so agreement on the past is not enough (`later_permit_seen`).
-/

namespace RiskPipeline

open Py Scheduler Tiering

variable {R Uuid : Type} [DecidableEq Uuid]

/-- The databases agree on what a tick reads. -/
structure SameView (db db' : Db R Uuid) (zoneId : Uuid) (simTime : Instant) : Prop where
  static : SameStatic db db'
  readings : db'.sensorReadings.rows.filter (·.timestamp ≤ simTime) =
    db.sensorReadings.rows.filter (·.timestamp ≤ simTime)
  openPermits : ∀ z, z = zoneId ∨ z ∈ ZoneAdjacencyRepository.adjacentZoneIds db zoneId →
    PermitRepository.listOpenByZone db' z = PermitRepository.listOpenByZone db z
  latest : ∀ z ∈ ZoneAdjacencyRepository.adjacentZoneIds db zoneId,
    RiskAssessmentRepository.latestByZone db' z = RiskAssessmentRepository.latestByZone db z

section
variable {T : Text R Uuid} {db db' : Db R Uuid} {zoneId : Uuid} {simTime : Instant}

theorem recent_view (h : SameView db db' zoneId simTime) (z : Uuid) (gasType : String) (limit : Nat) :
    SensorReadingRepository.recent db' z gasType simTime limit =
      SensorReadingRepository.recent db z gasType simTime limit := by
  have hsplit : ∀ rows : List (SensorReading R Uuid),
      (rows.filter fun r => r.zoneId = z ∧ r.gasType = gasType ∧ r.timestamp ≤ simTime) =
        (rows.filter (·.timestamp ≤ simTime)).filter fun r => r.zoneId = z ∧ r.gasType = gasType := by
    intro rows
    rw [List.filter_filter]
    refine List.filter_congr fun r _ => ?_
    rw [← Bool.decide_and, decide_eq_decide, and_assoc]
  unfold SensorReadingRepository.recent
  rw [hsplit, hsplit, h.readings]

theorem gasRiskBuilder_view (h : SameView db db' zoneId simTime) (gasType : String) (window : Nat)
    (tickId : Nat) (results : Results R) :
    ContextBuilders.makeGasRiskContextBuilder T db' gasType window zoneId simTime tickId results =
      ContextBuilders.makeGasRiskContextBuilder T db gasType window zoneId simTime tickId results := by
  unfold ContextBuilders.makeGasRiskContextBuilder SensorRepository.getByZoneAndGas
    ZoneRepository.get
  rw [recent_view h, h.static.sensors, h.static.zones]

theorem permitBuilder_view (h : SameView db db' zoneId simTime) (stale : Bool) (tickId : Nat)
    (results : Results R) :
    ContextBuilders.makePermitIntelligenceContextBuilder T db' stale zoneId simTime tickId results =
      ContextBuilders.makePermitIntelligenceContextBuilder T db stale zoneId simTime tickId
        results := by
  have hadjacent : ZoneAdjacencyRepository.adjacentZoneIds db' zoneId =
      ZoneAdjacencyRepository.adjacentZoneIds db zoneId := by
    unfold ZoneAdjacencyRepository.adjacentZoneIds
    rw [h.static.zoneAdjacency]
  have hstatus : ∀ z ∈ ZoneAdjacencyRepository.adjacentZoneIds db zoneId,
      ContextBuilders.adjacentZoneStatus db' z = ContextBuilders.adjacentZoneStatus db z := by
    intro z hz
    unfold ContextBuilders.adjacentZoneStatus
    rw [h.latest z hz, h.openPermits z (.inr hz)]
  unfold ContextBuilders.makePermitIntelligenceContextBuilder
  rw [h.openPermits zoneId (.inl rfl), hadjacent, List.filterMap_congr hstatus]

/-- Every context builder makes the same of both databases. -/
theorem contextBuilders_view [Field R] (h : SameView db db' zoneId simTime) (gasType : String)
    (tickId : Nat) (name : String) :
    (buildContextBuilders T db' gasType name).map (fun b => b zoneId simTime tickId) =
      (buildContextBuilders T db gasType name).map fun b => b zoneId simTime tickId := by
  unfold buildContextBuilders
  split
  · exact congrArg some (funext fun _ => gasRiskBuilder_view h _ _ _ _)
  · unfold ContextBuilders.makeEquipmentStatusContextBuilder EquipmentRepository.listByZone
    rw [h.static.equipment]
  · exact congrArg some (funext fun _ => permitBuilder_view h _ _ _)
  · unfold ContextBuilders.makeWorkerExposureContextBuilder WorkerRepository.listByCurrentZone
    rw [h.static.workers]
  · rfl

end

variable [Field R] [LinearOrder R] [IsStrictOrderedRing R]

theorem evaluateTick_view {M : Math R} {T : Text R Uuid} {db db' : Db R Uuid} {zoneId : Uuid}
    {simTime : DateTime} (h : SameView db db' zoneId simTime.instant) (gasType : String)
    (tickId : Nat) (cache : AgentCache R) (tierState : TierState R) :
    evaluateTick M T db' zoneId gasType simTime tickId cache tierState =
      evaluateTick M T db zoneId gasType simTime tickId cache tierState := by
  unfold evaluateTick runTick
  rw [runLevels_congr (contextBuilders_view h gasType tickId)]

/-- **Agreement on what a tick reads is enough.** Both ticks persist the same row or neither does, and
what they return has the same assessment, cache and tier state. -/
theorem tick_view (M : Math R) (T : Text R Uuid) {db db' : Db R Uuid} {zoneId : Uuid}
    {simTime : DateTime} (h : SameView db db' zoneId simTime.instant) (gasType : String)
    (tickId : Nat) (cache : AgentCache R) (tierState : TierState R) :
    ∃ row : Option (RiskAssessment R Uuid),
      (runZoneTick M T zoneId gasType simTime tickId cache tierState db).2 =
        row.elim db (persist db) ∧
      (runZoneTick M T zoneId gasType simTime tickId cache tierState db').2 =
        row.elim db' (persist db') ∧
      ∀ result result' : RiskPipelineResult R Uuid,
        (runZoneTick M T zoneId gasType simTime tickId cache tierState db).1 = .ok result →
        (runZoneTick M T zoneId gasType simTime tickId cache tierState db').1 = .ok result' →
          result'.assessment = result.assessment ∧ result'.cache = result.cache ∧
            result'.tierState = result.tierState := by
  refine ⟨_, runZoneTick_effect M T zoneId gasType simTime tickId cache tierState db, ?_,
    fun result result' hr hr' => ?_⟩
  · rw [runZoneTick_effect, tickRow, tickRow, evaluateTick_view h, h.static.zones]
  · obtain ⟨e, he, -, ha, hc, ht⟩ := runZoneTick_ok (Prod.ext hr rfl)
    obtain ⟨e', he', -, ha', hc', ht'⟩ := runZoneTick_ok (Prod.ext hr' rfl)
    rw [evaluateTick_view h] at he'
    cases he.symm.trans he'
    exact ⟨ha'.trans ha.symm, hc'.trans hc.symm, ht'.trans ht.symm⟩

/-- The plant with a reading of 20 at time 0. -/
def reading20 : Db ℚ ℕ :=
  { Runtime.plant with
    sensorReadings := Table.empty.upsert ⟨5, 7, 1, "CO", 20, "ppm", 0, "ok"⟩ }

/-- A reading an hour later. -/
def laterReading : Db ℚ ℕ :=
  { reading20 with
    sensorReadings := reading20.sensorReadings.upsert ⟨6, 7, 1, "CO", 50, "ppm", 3600000000, "ok"⟩ }

theorem tick_view_laterReading : ∃ result result' : RiskPipelineResult ℚ ℕ,
    (runZoneTick Math.dyadic plainText 1 "CO" ⟨0, 0⟩ 0 {} TierState.initial reading20).1 =
      .ok result ∧
    (runZoneTick Math.dyadic plainText 1 "CO" ⟨0, 0⟩ 0 {} TierState.initial laterReading).1 =
      .ok result' ∧ result'.assessment = result.assessment := by
  have hview : SameView reading20 laterReading 1 (DateTime.mk 0 0).instant :=
    ⟨⟨rfl, rfl, rfl, rfl, rfl⟩, by rfl, fun _ _ => rfl, fun _ _ => rfl⟩
  have hreturns : ∀ db ∈ [reading20, laterReading],
      (runZoneTick Math.dyadic plainText 1 "CO" ⟨0, 0⟩ 0 {} TierState.initial db).1.toOption.isSome := by
    decide +kernel
  obtain ⟨result, hr⟩ := Option.isSome_iff_exists.1 (hreturns _ (.head _))
  obtain ⟨result', hr'⟩ := Option.isSome_iff_exists.1 (hreturns _ (.tail _ (.head _)))
  rw [Except.toOption_eq_some] at hr hr'
  obtain ⟨-, -, -, hsame⟩ :=
    tick_view Math.dyadic plainText hview "CO" 0 {} TierState.initial
  exact ⟨result, result', hr, hr', (hsame result result' hr hr').1⟩

/-- The databases agree on the static tables and on everything up to a time. -/
structure SamePast (db db' : Db R Uuid) (simTime : Instant) : Prop where
  static : SameStatic db db'
  readings : db'.sensorReadings.rows.filter (·.timestamp ≤ simTime) =
    db.sensorReadings.rows.filter (·.timestamp ≤ simTime)
  assessments : db'.riskAssessments.rows.filter (·.timestamp ≤ simTime) =
    db.riskAssessments.rows.filter (·.timestamp ≤ simTime)
  permits : db'.permits.rows.filter (·.issuedAt ≤ simTime) =
    db.permits.rows.filter (·.issuedAt ≤ simTime)

/-- A permit issued an hour later. -/
def laterPermit : Db ℚ ℕ :=
  { reading20 with
    permits := Table.empty.upsert {
      permitId := 3
      permitType := "hot_work"
      zoneId := 1
      issuedAt := 3600000000
      expiresAt := 7200000000
      authorizingOfficerId := 9
      baselineSnapshot := ⟨some 1, some 1, some 30, some 1, some "0+0"⟩
      status := .active } }

/-- Agreement on the past is not enough: a later permit takes the score from 37.5 to 79.8. -/
theorem later_permit_seen : SamePast reading20 laterPermit 0 ∧
    ((runZoneTick Math.dyadic plainText 1 "CO" ⟨0, 0⟩ 0 {} TierState.initial
      reading20).2.riskAssessments.rows.map RiskAssessment.compoundRiskScore = [75 / 2]) ∧
    ((runZoneTick Math.dyadic plainText 1 "CO" ⟨0, 0⟩ 0 {} TierState.initial
      laterPermit).2.riskAssessments.rows.map RiskAssessment.compoundRiskScore = [399 / 5]) :=
  ⟨⟨⟨rfl, rfl, rfl, rfl, rfl⟩, rfl, rfl, rfl⟩, by decide +kernel, by decide +kernel⟩

end RiskPipeline
