import IndustrialSafety.Agents.Proof.Alike
import IndustrialSafety.Services.Proof.Comparator

/-!
# Ticks that read alike

`SameQueries`: for a zone and gas type, two databases answer a tick's queries alike. The order of the open
permits is not read, and of an adjacent zone only the conflicts with the open permits. Such databases
give the same assessments: a tick (`evaluateTick_alike`, `runZoneTick_alike`), and the ticks of a zone as
long as the writes keep them so (`runZone_alike`).
-/

namespace RiskPipeline

open Py Scheduler Tiering List

variable {R Uuid : Type} [Field R] [LinearOrder R] [DecidableEq Uuid]

/-- What Permit Intelligence is given of the adjacent zones. -/
def adjacentZones (db : Db R Uuid) (zoneId : Uuid) : List (AdjacentZoneStatus R Uuid) :=
  (ZoneAdjacencyRepository.adjacentZoneIds db zoneId).filterMap
    (ContextBuilders.adjacentZoneStatus db)

/-- The queries about a zone and gas type have the same answers. -/
structure SameQueries (db db' : Db R Uuid) (zoneId : Uuid) (gasType : String) : Prop where
  static : SameStatic db db'
  recent : ∀ before limit, SensorReadingRepository.recent db' zoneId gasType before limit =
    SensorReadingRepository.recent db zoneId gasType before limit
  latest : SensorReadingRepository.latest db' zoneId gasType =
    SensorReadingRepository.latest db zoneId gasType
  openPermits : PermitRepository.listOpenByZone db zoneId ~ PermitRepository.listOpenByZone db' zoneId
  conflicts : ∀ p ∈ PermitRepository.listOpenByZone db zoneId,
    PermitIntelligence.detectSimopsConflicts p.permitType (adjacentZones db' zoneId)
        PermitIntelligence.PermitReasoningConfig.default =
      PermitIntelligence.detectSimopsConflicts p.permitType (adjacentZones db zoneId)
        PermitIntelligence.PermitReasoningConfig.default

section
variable {M : Math R} {T : Text R Uuid} {db db' : Db R Uuid} {zoneId : Uuid} {gasType : String}
  {simTime : Instant} {tickId : Nat}

theorem gasRisk_alike (h : SameQueries db db' zoneId gasType) :
    SameBuilt zoneId simTime tickId (buildContextBuilders T db gasType)
      (buildContextBuilders T db' gasType) (GasRisk.agent M) := by
  refine .some fun results results' _ => ?_
  have hbuilt : ContextBuilders.makeGasRiskContextBuilder T db' gasType
        ContextBuilders.defaultReadingWindow zoneId simTime tickId results' =
      ContextBuilders.makeGasRiskContextBuilder T db gasType
        ContextBuilders.defaultReadingWindow zoneId simTime tickId results' := by
    unfold ContextBuilders.makeGasRiskContextBuilder SensorRepository.getByZoneAndGas
      ZoneRepository.get
    rw [h.recent, h.static.sensors, h.static.zones]
  unfold runAgent
  rw [hbuilt]
  unfold ContextBuilders.makeGasRiskContextBuilder
  cases SensorRepository.getByZoneAndGas db zoneId gasType with
  | none => exact .error trivial
  | some sensor =>
    exact (Except.Related.refl AgentResult.Alike.refl _).mono (fun _ _ _ => trivial) fun _ _ => id

theorem equipmentStatus_alike (h : SameStatic db db') :
    SameBuilt zoneId simTime tickId (buildContextBuilders T db gasType)
      (buildContextBuilders T db' gasType) (EquipmentStatus.agent M) := by
  refine .some fun results results' _ => ?_
  unfold runAgent ContextBuilders.makeEquipmentStatusContextBuilder EquipmentRepository.listByZone
  rw [h.equipment]
  exact (Except.Related.refl AgentResult.Alike.refl _).mono (fun _ _ _ => trivial) fun _ _ => id

theorem workerExposure_alike (h : SameStatic db db') :
    SameBuilt zoneId simTime tickId (buildContextBuilders T db gasType)
      (buildContextBuilders T db' gasType) (WorkerExposure.agent M) := by
  refine .some fun results results' halike => ?_
  unfold runAgent ContextBuilders.makeWorkerExposureContextBuilder WorkerRepository.listByCurrentZone
  rw [h.workers]
  refine WorkerExposure.evaluate_alike halike ?_ rfl
  have hcoverage : ContextBuilders.derivePermitCoverage ( results' "permit_intelligence") =
      ContextBuilders.derivePermitCoverage (results "permit_intelligence") := by
    rcases halike.none_or_some "permit_intelligence" with ⟨hn, hn'⟩ | ⟨r, r', hr, hr', hrr⟩
    · rw [hn, hn']
    · rw [hr, hr']
      simp only [ContextBuilders.derivePermitCoverage, hrr.decisions]
  rw [hcoverage]

theorem permitIntelligence_alike (h : SameQueries db db' zoneId gasType) :
    SameBuilt zoneId simTime tickId (buildContextBuilders T db gasType)
      (buildContextBuilders T db' gasType) (PermitIntelligence.agent : Agent R Uuid) := by
  refine .some fun results results' halike => ?_
  have hadjacent : (ZoneAdjacencyRepository.adjacentZoneIds db' zoneId).filterMap
      (ContextBuilders.adjacentZoneStatus db') = adjacentZones db' zoneId := rfl
  unfold runAgent ContextBuilders.makePermitIntelligenceContextBuilder
  refine Except.Related.bind ?_ fun input input' _ _ (hinput : Except.Related Except.AnyError
    AgentResult.Alike (PermitIntelligence.evaluate PermitIntelligence.PermitReasoningConfig.default
      input) (PermitIntelligence.evaluate PermitIntelligence.PermitReasoningConfig.default input')) =>
    hinput
  -- a permit with a malformed baseline makes both builders raise
  refine Except.Related.bind (Except.Related.mapM_perm h.openPermits)
    fun permits permits' hpermits _ hperm => .ok ?_
  refine PermitIntelligence.evaluate_alike halike hperm rfl rfl (fun p hp => ?_) rfl
  obtain ⟨row, hrow, hp⟩ := Except.mem_of_mapM_eq_ok hpermits hp
  obtain ⟨baseline, -, hp⟩ := Except.bind_eq_ok.1 hp
  cases hp
  exact h.conflicts row hrow

end

/-! ## Conflicts with adjacent zones -/

section
variable {db db' : Db R Uuid} {zoneId adjacentZoneId : Uuid}

/-- An open permit of the zone is incompatible with one of the other zone, which is adjacent to it. -/
def Interferes (db : Db R Uuid) (zoneId adjacentZoneId : Uuid) : Prop :=
  adjacentZoneId ∈ ZoneAdjacencyRepository.adjacentZoneIds db zoneId ∧
    ∃ p ∈ PermitRepository.listOpenByZone db zoneId,
      ∃ q ∈ PermitRepository.listOpenByZone db adjacentZoneId,
        PermitIntelligence.isIncompatiblePair p.permitType q.permitType
          (PermitIntelligence.PermitReasoningConfig.default : PermitIntelligence.PermitReasoningConfig R)

instance : Decidable (Interferes db zoneId adjacentZoneId) :=
  inferInstanceAs (Decidable (_ ∧ _))

omit [Field R] [DecidableEq Uuid] in
theorem detectSimopsConflicts_filterMap (permitType : String)
    (config : PermitIntelligence.PermitReasoningConfig R)
    (status : Uuid → Option (AdjacentZoneStatus R Uuid)) (ids : List Uuid) :
    PermitIntelligence.detectSimopsConflicts permitType (ids.filterMap status) config =
      (ids.map fun w =>
        (status w).elim 0 (PermitIntelligence.zoneConflicts permitType config)).sum := by
  unfold PermitIntelligence.detectSimopsConflicts
  induction ids with
  | nil => rfl
  | cons w ids ih =>
    cases hw : status w with
    | none => simp [hw, ih]
    | some z => simp [hw, ih]

/-- Zones that do not interfere add no conflict. -/
theorem zoneConflicts_of_not_interferes {w : Uuid}
    (hw : w ∈ ZoneAdjacencyRepository.adjacentZoneIds db zoneId) (h : ¬Interferes db zoneId w)
    {p : Permit R Uuid} (hp : p ∈ PermitRepository.listOpenByZone db zoneId) :
    (ContextBuilders.adjacentZoneStatus db w).elim 0 (PermitIntelligence.zoneConflicts p.permitType
      PermitIntelligence.PermitReasoningConfig.default) = 0 := by
  cases hs : ContextBuilders.adjacentZoneStatus db w with
  | none => rfl
  | some z =>
    obtain ⟨latest, -, hs⟩ := Option.bind_eq_some_iff.1 hs
    obtain ⟨score, -, hs⟩ := Option.bind_eq_some_iff.1 hs
    cases hs
    show PermitIntelligence.zoneConflicts _ _ _ = 0
    unfold PermitIntelligence.zoneConflicts
    split
    · rfl
    · rw [Multiset.map_eq_zero, Finset.val_eq_zero, Finset.filter_eq_empty_iff]
      intro t ht hpair
      rw [List.mem_toFinset] at ht
      obtain ⟨q, hq, rfl⟩ := List.mem_map.1 ht
      exact h ⟨hw, p, hp, q, hq, hpair⟩

/-- The conflicts only depend on the latest assessments of the zones that interfere. -/
theorem conflicts_congr (hstatic : SameStatic db db')
    (hpermits : ∀ w, PermitRepository.listOpenByZone db w ~ PermitRepository.listOpenByZone db' w)
    (h : ∀ w, Interferes db zoneId w → RiskAssessmentRepository.latestByZone db' w =
      RiskAssessmentRepository.latestByZone db w) :
    ∀ p ∈ PermitRepository.listOpenByZone db zoneId,
      PermitIntelligence.detectSimopsConflicts p.permitType (adjacentZones db' zoneId)
          PermitIntelligence.PermitReasoningConfig.default =
        PermitIntelligence.detectSimopsConflicts p.permitType (adjacentZones db zoneId)
          PermitIntelligence.PermitReasoningConfig.default := by
  intro p hp
  have hids : ZoneAdjacencyRepository.adjacentZoneIds db' zoneId =
      ZoneAdjacencyRepository.adjacentZoneIds db zoneId := by
    unfold ZoneAdjacencyRepository.adjacentZoneIds
    rw [hstatic.zoneAdjacency]
  unfold adjacentZones
  rw [detectSimopsConflicts_filterMap, detectSimopsConflicts_filterMap, hids]
  refine congrArg List.sum (List.map_congr_left fun w hw => ?_)
  by_cases hi : Interferes db zoneId w
  · have htypes : ((PermitRepository.listOpenByZone db' w).map Permit.permitType).toFinset =
        ((PermitRepository.listOpenByZone db w).map Permit.permitType).toFinset :=
      List.toFinset_eq_of_perm _ _ ((hpermits w).symm.map _)
    unfold ContextBuilders.adjacentZoneStatus
    simp only [h w hi, htypes]
  · have hi' : ¬Interferes db' zoneId w := by
      intro hi'
      obtain ⟨hw', p', hp', q, hq, hpair⟩ := hi'
      exact hi ⟨hw, p', (hpermits zoneId).mem_iff.2 hp', q, (hpermits w).mem_iff.2 hq, hpair⟩
    rw [zoneConflicts_of_not_interferes hw hi hp, zoneConflicts_of_not_interferes (hids ▸ hw) hi'
      ((hpermits zoneId).mem_iff.1 hp)]

end

/-! ## A tick -/

variable [IsStrictOrderedRing R] {M : Math R} {T : Text R Uuid} {db db' : Db R Uuid}
  {zoneId : Uuid} {gasType : String} {simTime : DateTime} {tickId : Nat}
  {cache cache' : AgentCache R} {tierState : TierState R}

/-- The same assessment and tier state, caches that are read alike. -/
structure Evaluation.Alike (e e' : Evaluation R Uuid) : Prop where
  assessment : e'.assessment = e.assessment
  tierState : e'.tierState = e.tierState
  cache : e.cache.Alike e'.cache

omit [IsStrictOrderedRing R] in
/-- Every agent gets inputs on which it does the same. -/
theorem SameQueries.sameBuilt (h : SameQueries db db' zoneId gasType) (M : Math R) (T : Text R Uuid)
    (simTime : Instant) (tickId : Nat) : ∀ level ∈ (executionPlan M).levels,
      ∀ agent ∈ level.agents, SameBuilt zoneId simTime tickId (buildContextBuilders T db gasType)
        (buildContextBuilders T db' gasType) agent := by
  intro level hlevel agent hagent
  simp only [executionPlan, buildDefaultExecutionPlan, List.mem_cons, List.not_mem_nil,
    or_false] at hlevel
  rcases hlevel with rfl | rfl | rfl
  · simp only [List.mem_cons, List.not_mem_nil, or_false] at hagent
    rcases hagent with rfl | rfl
    · exact gasRisk_alike h
    · exact equipmentStatus_alike h.static
  · rw [List.mem_singleton.1 hagent]
    exact permitIntelligence_alike h
  · rw [List.mem_singleton.1 hagent]
    exact workerExposure_alike h.static

theorem evaluateTick_alike (h : SameQueries db db' zoneId gasType) (hc : cache.Alike cache') :
    Except.Related Eq Evaluation.Alike
      (evaluateTick M T db zoneId gasType simTime tickId cache tierState)
      (evaluateTick M T db' zoneId gasType simTime tickId cache' tierState) := by
  refine Except.Related.bind (runLevels_alike (h.sameBuilt M T _ _) (.refl _) hc) fun p p' _ _ hp => ?_
  dsimp only
  rw [RiskFormula.fuse_alike hp.1]
  refine Except.Related.bind (.refl (fun _ => rfl) _) fun f f' _ _ hf => ?_
  subst hf
  rw [Justification.build_alike hp.1]
  refine Except.Related.bind (.refl (fun _ => rfl) _) fun j j' _ _ hj => ?_
  subst hj
  exact .ok ⟨rfl, rfl, hp.2⟩

theorem compoundTick_apply (M : Math R) (T : Text R Uuid) (zoneId : Uuid) (gasType : String)
    (simTime : DateTime) (tickId : Nat) (cache : AgentCache R) (tierState : TierState R)
    (db : Db R Uuid) : compoundTick M T zoneId gasType simTime tickId cache tierState db =
      match evaluateTick M T db zoneId gasType simTime tickId cache tierState with
      | .ok e => if (db.zones.get? zoneId).isSome then (.ok e, persist db e.assessment)
        else (.error (.integrityError "risk_assessments_zone_id_fkey"), db)
      | .error x => (.error x, db) := by
  cases he : evaluateTick M T db zoneId gasType simTime tickId cache tierState with
  | error x =>
    refine Service.transaction_eq_error.2 ⟨?_, rfl⟩
    rw [Transaction.get_bind, Transaction.lift_bind_eq_error]
    exact .inl he
  | ok e =>
    dsimp only
    split
    · rename_i hzone
      exact compoundTick_eq_ok.2 ⟨he, hzone, rfl⟩
    · rename_i hzone
      obtain ⟨f, hcomputed⟩ := evaluateTick_ok he
      have hcreate : RiskAssessmentRepository.create e.assessment db =
          .error (.integrityError "risk_assessments_zone_id_fkey") := by
        rw [RiskAssessmentRepository.create, Transaction.get_bind, Transaction.bind_apply,
          hcomputed.zoneId, checkConstraint, if_neg hzone]
        rfl
      refine Service.transaction_eq_error.2 ⟨?_, rfl⟩
      rw [Transaction.get_bind, Transaction.lift_bind_eq_error]
      exact .inr ⟨e, he, Transaction.bind_eq_error.2 (.inl hcreate)⟩

/-- What a tick hands over: the same assessment and tier state, caches that are read alike. -/
structure RiskPipelineResult.Alike (r r' : RiskPipelineResult R Uuid) : Prop where
  assessment : r'.assessment = r.assessment
  tierState : r'.tierState = r.tierState
  cache : r.cache.Alike r'.cache

/-- A write of an assessment that carries the id of its zone's tick. -/
def KeptByTicks (T : Text R Uuid) (S : Db R Uuid → Db R Uuid → Prop) (zoneId : Uuid) : Prop :=
  ∀ db db' a simTime, S db db' → a.zoneId = zoneId → a.timestamp = simTime.instant →
    a.assessmentId = deriveAssessmentId T zoneId simTime → S (persist db a) (persist db' a)

omit [IsStrictOrderedRing R] in
theorem compare_alike (h : SameQueries db db' zoneId gasType) {t : Instant}
    {e e' : Evaluation R Uuid} (he : e.Alike e') :
    Except.Related Eq RiskPipelineResult.Alike (compare T db zoneId gasType t e)
      (compare T db' zoneId gasType t e') := by
  have hreads : ContextBuilders.buildCounterfactualReadings T db' zoneId [gasType] none =
      ContextBuilders.buildCounterfactualReadings T db zoneId [gasType] none := by
    rw [readings_eq, readings_eq, comparedReading, comparedReading, h.latest]
    unfold SensorRepository.getByZoneAndGas
    rw [h.static.sensors]
  unfold compare
  rw [hreads]
  cases Counterfactual.evaluate T zoneId t
      (ContextBuilders.buildCounterfactualReadings T db zoneId [gasType] none) with
  | error x => exact .error rfl
  | ok verdict => exact .ok ⟨he.assessment, he.tierState, he.cache⟩

theorem runZoneTick_alike {S : Db R Uuid → Db R Uuid → Prop} (hS : KeptByTicks T S zoneId)
    (hs : S db db') (h : SameQueries db db' zoneId gasType) (hc : cache.Alike cache') :
    Service.Lockstep S RiskPipelineResult.Alike
      (runZoneTick M T zoneId gasType simTime tickId cache tierState db)
      (runZoneTick M T zoneId gasType simTime tickId cache' tierState db') := by
  have heval : Except.Related _ _ (evaluateTick M T db zoneId gasType simTime tickId cache tierState)
      (evaluateTick M T db' zoneId gasType simTime tickId cache' tierState) := evaluateTick_alike h hc
  have hcompound := compoundTick_apply M T zoneId gasType simTime tickId cache tierState db
  have hcompound' := compoundTick_apply M T zoneId gasType simTime tickId cache' tierState db'
  rw [h.static.zones] at hcompound'
  generalize hx : evaluateTick M T db zoneId gasType simTime tickId cache tierState = x
    at heval hcompound
  generalize evaluateTick M T db' zoneId gasType simTime tickId cache' tierState = x'
    at heval hcompound'
  cases heval with
  | error hexc =>
    rw [runZoneTick_failed hcompound, runZoneTick_failed hcompound', hexc]
    exact .error _ hs
  | @ok e e' he =>
    dsimp only at hcompound hcompound'
    split at hcompound
    · rename_i hzone
      rw [if_pos hzone] at hcompound'
      rw [runZoneTick_compound hcompound, runZoneTick_compound hcompound']
      have hcompare := compare_alike (T := T) (t := simTime.instant) h he
      obtain ⟨f, hcomputed⟩ := evaluateTick_ok hx
      have hs' : S (persist db e.assessment) (persist db' e'.assessment) := by
        rw [he.assessment]
        exact hS _ _ _ _ hs hcomputed.zoneId hcomputed.timestamp hcomputed.assessmentId
      generalize compare T db zoneId gasType simTime.instant e = c at hcompare
      generalize compare T db' zoneId gasType simTime.instant e' = c' at hcompare
      cases hcompare with
      | ok hresult => exact .ok hresult hs'
      | error hexc =>
        rw [hexc]
        exact .error _ hs'
    · rename_i hzone
      rw [if_neg hzone] at hcompound'
      rw [runZoneTick_failed hcompound, runZoneTick_failed hcompound']
      exact .error _ hs

end RiskPipeline

/-! ## The ticks of a zone -/

namespace ScenarioBuilder

open Py Scheduler Tiering RiskPipeline

variable {R Uuid : Type} [Field R] [LinearOrder R] [DecidableEq Uuid]

/-- The same ticks with the same assessments. -/
structure ZoneRun.Alike (run run' : ZoneRun R Uuid) : Prop where
  zoneId : run'.zoneId = run.zoneId
  timestamps : run'.timestamps = run.timestamps
  results : List.Forall₂ RiskPipelineResult.Alike run.results run'.results

omit [Field R] [LinearOrder R] [DecidableEq Uuid] in
theorem ZoneRun.Alike.assessments_eq {run run' : ZoneRun R Uuid} (h : run.Alike run') :
    run'.results.map RiskPipelineResult.assessment =
      run.results.map RiskPipelineResult.assessment := by
  have hresults := h.results
  generalize run.results = rs at hresults
  generalize run'.results = rs' at hresults
  induction hresults with
  | nil => rfl
  | cons hr _ ih => rw [List.map_cons, List.map_cons, ih, hr.assessment]

omit [Field R] [LinearOrder R] [DecidableEq Uuid] in
/-- Only the assessments are reported. -/
theorem ZoneRun.Alike.executionResult_eq {run run' : ZoneRun R Uuid} (h : run.Alike run') :
    run'.executionResult = run.executionResult := by
  have hmap : ∀ r : ZoneRun R Uuid, r.executionResult =
      (r.results.map RiskPipelineResult.assessment).getLast?.map fun a =>
        ⟨r.zoneId, r.timestamps.length, a.tier, a.compoundRiskScore,
          (r.results.map RiskPipelineResult.assessment).map RiskAssessment.assessmentId⟩ := by
    intro r
    rw [List.getLast?_map, Option.map_map, List.map_map]
    rfl
  rw [hmap, hmap, h.assessments_eq, h.zoneId, h.timestamps]

variable [IsStrictOrderedRing R] {M : Math R} {T : Text R Uuid} {db db' : Db R Uuid}
  {S : Db R Uuid → Db R Uuid → Prop}

theorem runTicks_alike {zoneId : Uuid} {gasType : String} (hS : KeptByTicks T S zoneId)
    (hview : ∀ db db', S db db' → SameQueries db db' zoneId gasType) (timestamps : List DateTime)
    (tickId : Nat) {cache cache' : AgentCache R} (tierState : TierState R) (hs : S db db')
    (hc : cache.Alike cache') : Service.Lockstep S (List.Forall₂ RiskPipelineResult.Alike)
      (runTicks M T zoneId gasType timestamps tickId cache tierState db)
      (runTicks M T zoneId gasType timestamps tickId cache' tierState db') := by
  induction timestamps generalizing tickId cache cache' tierState db db' with
  | nil => exact .pure .nil hs
  | cons simTime timestamps ih =>
    refine Service.Lockstep.bind (runZoneTick_alike hS hs (hview _ _ hs) hc)
      fun r r' _ _ _ _ hr hs => ?_
    rw [hr.tierState]
    refine Service.Lockstep.bind (ih _ _ hs hr.cache) fun rs rs' _ _ _ _ hrs hs => ?_
    exact .pure (.cons hr hrs) hs

/-- A zone's ticks, as long as its writes keep the databases so. -/
theorem runZone_alike {group group' : (Uuid × String) × List DateTime}
    (hS : KeptByTicks T S group.1.1)
    (hview : ∀ db db', S db db' → SameQueries db db' group.1.1 group.1.2)
    (hkey : group'.1 = group.1) (htimes : (group'.2.insertionSort fun a b => a.instant ≤ b.instant) =
      group.2.insertionSort fun a b => a.instant ≤ b.instant) (hs : S db db') :
    Service.Lockstep S ZoneRun.Alike (runZone M T group db) (runZone M T group' db') := by
  obtain ⟨⟨zoneId, gasType⟩, timestamps⟩ := group
  obtain ⟨⟨zoneId', gasType'⟩, timestamps'⟩ := group'
  cases hkey
  dsimp only at htimes
  unfold runZone
  dsimp only
  rw [htimes]
  refine Service.Lockstep.bind (runTicks_alike hS hview _ 0 TierState.initial hs (.refl _))
    fun rs rs' _ _ _ _ hrs hs => ?_
  exact .pure ⟨rfl, rfl, hrs⟩ hs

end ScenarioBuilder
