import IndustrialSafety.Services.Concurrent
import IndustrialSafety.Services.Proof.Rerun
import IndustrialSafety.Services.Proof.Views

/-!
# Requests that run together

* `alone_executeBuilderScenario`: without other tasks, the coroutine of a request is
  `execute_builder_scenario`.
* `isolation`: requests with distinct seeds that do not write where another one reads. Whatever their
  interleaving, a request that finishes has the result of a run of its own, and left its zones and those
  adjacent to them as that run leaves them.
-/

open Py Simulation Scheduler RiskFormula Tiering RiskPipeline ScenarioBuilder

variable {R Uuid : Type} [Field R] [LinearOrder R] [DecidableEq Uuid]

namespace Async

/-! ## Without other tasks -/

section
variable {ε σ α β : Type} {f : α → Async ε σ β} {g : α → Except ε β} {s : σ}

/-- Steps that leave the state as it is. -/
theorem alone_bind_fixed {x : Async ε σ α} {r : Except ε α} (h : alone x s = (r, s))
    (hf : ∀ a, alone (f a) s = (g a, s)) : alone (x >>= f) s = (r >>= g, s) := by
  rw [alone_bind, Service.bind_apply, h]
  cases r with
  | error e => rfl
  | ok a => exact hf a

theorem alone_lift_bind (r : Except ε α) : alone ((liftM r : Async ε σ α) >>= f) s =
    match r with
    | .ok a => alone (f a) s
    | .error e => (.error e, s) := by
  rw [alone_bind, Service.bind_apply, alone_lift]
  cases r <;> rfl

end

section
variable {M : Math R} {T : Text R Uuid} {gasType : String} {zoneId : Uuid}

omit [Field R] [LinearOrder R] in
theorem alone_gather {simTime : Instant} {tickId : ℕ} {results : Results R}
    (level : ExecutionLevel R Uuid) (db : Db R Uuid) :
    alone (level.agents.mapM (agentTask T gasType zoneId simTime tickId results)) db =
      (gather zoneId simTime tickId (buildContextBuilders T db gasType) results level, db) := by
  rw [alone_mapM]
  refine Service.mapM_fixed fun agent _ => ?_
  unfold agentTask
  rw [alone_await, Service.get_bind]
  cases buildContextBuilders T db gasType agent.name <;> rfl

theorem alone_runLevels {simTime : Instant} {tickId : ℕ} {config : SchedulerConfig R}
    (levels : List (ExecutionLevel R Uuid)) (results : Results R) (cache : AgentCache R)
    (db : Db R Uuid) :
    alone (runLevels M T gasType zoneId simTime tickId config levels results cache) db =
      (Scheduler.runLevels M zoneId simTime tickId (buildContextBuilders T db gasType) config levels
        results cache, db) := by
  induction levels generalizing results cache with
  | nil => rfl
  | cons level levels ih =>
    refine alone_bind_fixed (alone_gather level db) fun outcomes => ?_
    exact alone_bind_fixed rfl fun p => ih p.1 p.2

variable [IsStrictOrderedRing R] {simTime : DateTime} {tickId : ℕ} {cache : AgentCache R}
  {tierState : TierState R}

theorem alone_evaluateTick (db : Db R Uuid) :
    alone (evaluateTick M T zoneId gasType simTime tickId cache tierState) db =
      (RiskPipeline.evaluateTick M T db zoneId gasType simTime tickId cache tierState, db) := by
  refine alone_bind_fixed (alone_runLevels _ _ _ db) fun p => ?_
  refine alone_bind_fixed rfl fun f => ?_
  exact alone_bind_fixed rfl fun justification => rfl

theorem alone_runZoneTick :
    alone (runZoneTick M T zoneId gasType simTime tickId cache tierState) =
      RiskPipeline.runZoneTick M T zoneId gasType simTime tickId cache tierState := by
  funext db
  have hcompound := compoundTick_apply M T zoneId gasType simTime tickId cache tierState db
  unfold runZoneTick
  rw [alone_bind, Service.bind_apply, alone_evaluateTick]
  cases he : RiskPipeline.evaluateTick M T db zoneId gasType simTime tickId cache tierState with
  | error x =>
    rw [he] at hcompound
    rw [runZoneTick_failed hcompound]
  | ok e =>
    rw [he] at hcompound
    obtain ⟨f, hcomputed⟩ := evaluateTick_ok he
    dsimp only at hcompound ⊢
    rw [alone_bind, Service.bind_apply, alone_await]
    unfold Service.transaction RiskAssessmentRepository.create
    rw [Transaction.get_bind, Transaction.bind_apply, hcomputed.zoneId]
    split at hcompound
    · rename_i hzone
      rw [runZoneTick_compound hcompound, checkConstraint, if_pos hzone]
      show (alone (_ >>= _)) (persist db e.assessment) = _
      rw [alone_bind, Service.bind_apply]
      show (alone (_ >>= _)) (persist db e.assessment) = _
      rw [alone_lift_bind, RiskPipeline.compare]
      have hreads : ContextBuilders.buildCounterfactualReadings T (persist db e.assessment) zoneId
          [gasType] none = ContextBuilders.buildCounterfactualReadings T db zoneId [gasType] none := rfl
      rw [hreads]
      cases Counterfactual.evaluate T zoneId simTime.instant
        (ContextBuilders.buildCounterfactualReadings T db zoneId [gasType] none) <;> rfl
    · rename_i hzone
      rw [runZoneTick_failed hcompound, checkConstraint, if_neg hzone]
      rfl

/-! ## The ticks -/

theorem alone_runTicks (timestamps : List DateTime) (tickId : ℕ) (cache : AgentCache R)
    (tierState : TierState R) :
    alone (runTicks M T zoneId gasType timestamps tickId cache tierState) =
      ScenarioBuilder.runTicks M T zoneId gasType timestamps tickId cache tierState := by
  induction timestamps generalizing tickId cache tierState with
  | nil => rfl
  | cons simTime timestamps ih =>
    unfold runTicks ScenarioBuilder.runTicks
    simp only [alone_bind, alone_runZoneTick, ih, alone_pure]

theorem alone_runZone (group : (Uuid × String) × List DateTime) :
    alone (runZone M T group) = ScenarioBuilder.runZone M T group := by
  unfold runZone ScenarioBuilder.runZone
  simp only [alone_bind, alone_runTicks, alone_pure]

theorem alone_runZones (startTime : String) (readings : List (GeneratedReading R Uuid)) :
    alone (runZones M T startTime readings) = ScenarioBuilder.runZones M T startTime readings := by
  funext db
  rw [runZones_apply]
  show alone (liftM (zonePairs T startTime readings) >>= _) db = _
  rw [alone_lift_bind]
  cases zonePairs T startTime readings with
  | error e => rfl
  | ok pairs =>
    dsimp only
    rw [alone_mapM, funext alone_runZone]

variable [FloorRing R]

/-- **Without other tasks, a request is `execute_builder_scenario`.** -/
theorem alone_executeBuilderScenario (M : Math R) (T : Text R Uuid) (scenario : Scenario R) :
    alone (executeBuilderScenario M T scenario) =
      ScenarioBuilder.executeBuilderScenario M T scenario := by
  funext db
  rw [executeBuilderScenario_apply, executeRuns_apply]
  unfold executeBuilderScenario
  rw [alone_bind, Service.bind_apply, alone_await]
  unfold Service.transaction
  cases persistBuilderScenario M T scenario db with
  | error e => rfl
  | ok p =>
    dsimp only
    split
    · rfl
    · rename_i herrors
      unfold replay
      rw [not_not.1 herrors, alone_bind, Service.bind_apply, alone_runZones]
      rw [Service.bind_apply]
      generalize ScenarioBuilder.runZones M T scenario.startTime p.1.2 p.2 = q
      obtain ⟨x | runs, d⟩ := q <;> rfl

end

/-! ## In states that a request does not tell apart -/

section
variable {ι : Type} {M : Math R} {T : Text R Uuid} {base : Db R Uuid} {scenarios : ι → Scenario R}
  {i : ι} {zoneId : Uuid} {gasType : String}

theorem agentTask_alike {simTime : Instant} {tickId : ℕ} {results results' : Results R}
    {agent : Agent R Uuid} (hz : zoneId ∈ zonesOf T (scenarios i))
    (hagent : ∃ level ∈ (executionPlan M).levels, agent ∈ level.agents)
    (hr : results.Alike results') : Alike (SameFor T base scenarios i) SameOutcome
      (agentTask T gasType zoneId simTime tickId results agent)
      (agentTask T gasType zoneId simTime tickId results' agent) := by
  refine alike_await fun s s' hs => ?_
  rw [Service.get_bind, Service.get_bind]
  obtain ⟨level, hlevel, hagent⟩ := hagent
  have hbuilt := (hs.sameQueries hz gasType).sameBuilt M T simTime tickId level hlevel agent hagent
  unfold SameBuilt at hbuilt
  generalize buildContextBuilders T s gasType agent.name = b at hbuilt
  generalize buildContextBuilders T s' gasType agent.name = b' at hbuilt
  cases hbuilt with
  | none => exact .error _ hs
  | some hbuilt => exact .ok ⟨rfl, hbuilt _ _ hr⟩ hs

theorem runLevels_alike {simTime : Instant} {tickId : ℕ} {config : SchedulerConfig R}
    {levels : List (ExecutionLevel R Uuid)} {results results' : Results R}
    {cache cache' : AgentCache R} (hz : zoneId ∈ zonesOf T (scenarios i))
    (hlevels : ∀ level ∈ levels, level ∈ (executionPlan M).levels) (hr : results.Alike results')
    (hc : cache.Alike cache') :
    Alike (SameFor T base scenarios i) (fun p p' => p.1.Alike p'.1 ∧ p.2.Alike p'.2)
      (runLevels M T gasType zoneId simTime tickId config levels results cache)
      (runLevels M T gasType zoneId simTime tickId config levels results' cache') := by
  induction levels generalizing results results' cache cache' with
  | nil => exact alike_pure ⟨hr, hc⟩
  | cons level levels ih =>
    rw [List.forall_mem_cons] at hlevels
    refine Alike.bind (alike_mapM fun agent hagent =>
      agentTask_alike hz ⟨level, hlevels.1, hagent⟩ hr) fun outcomes outcomes' ho => ?_
    refine Alike.bind (alike_lift (settle_alike ho hr hc)) fun p p' hp => ?_
    exact ih hlevels.2 hp.1 hp.2

variable [IsStrictOrderedRing R] {simTime : DateTime} {tickId : ℕ} {cache cache' : AgentCache R}
  {tierState : TierState R}

/-- What a tick computes before its commit. -/
structure Computed (zoneId : Uuid) (simTime : DateTime) (T : Text R Uuid)
    (e e' : Evaluation R Uuid) : Prop where
  alike : e.Alike e'
  zoneId : e.assessment.zoneId = zoneId
  isTick : IsTick T e.assessment

theorem evaluateTick_alike (hz : zoneId ∈ zonesOf T (scenarios i)) (hc : cache.Alike cache') :
    Alike (SameFor T base scenarios i) (Computed zoneId simTime T)
      (evaluateTick M T zoneId gasType simTime tickId cache tierState)
      (evaluateTick M T zoneId gasType simTime tickId cache' tierState) := by
  refine Alike.bind (runLevels_alike hz (fun _ h => h) (.refl _) hc) fun p p' hp => ?_
  dsimp only
  rw [RiskFormula.fuse_alike hp.1]
  refine Alike.bind (alike_lift (.refl (fun _ => rfl) _)) fun f f' hf => ?_
  subst hf
  rw [Justification.build_alike hp.1]
  refine Alike.bind (alike_lift (.refl (fun _ => rfl) _)) fun j j' hj => ?_
  subst hj
  exact alike_pure ⟨⟨rfl, rfl, hp.2⟩, rfl, simTime, rfl, rfl⟩

omit [Field R] [LinearOrder R] [IsStrictOrderedRing R] in
theorem create_lockstep (hT : Function.Injective T.resolveId) (hseeds : DistinctSeeds scenarios)
    {a : RiskAssessment R Uuid} (hrow : (writable T (scenarios i)).assessment a) {s s' : Db R Uuid}
    (hs : SameFor T base scenarios i s s') : Service.Lockstep (SameFor T base scenarios i) Eq
      (Service.transaction (RiskAssessmentRepository.create a) s)
      (Service.transaction (RiskAssessmentRepository.create a) s') := by
  refine Transaction.Lockstep.transaction ?_ hs
  unfold RiskAssessmentRepository.create
  have hzone : s'.zones.get? a.zoneId = s.zones.get? a.zoneId := by rw [hs.static.zones]
  rw [Transaction.get_bind, Transaction.get_bind, hzone]
  exact Transaction.Lockstep.lift_bind fun _ _ => .ok ⟨rfl, hs.assessment hT hseeds hrow⟩

theorem runZoneTick_alike (hT : Function.Injective T.resolveId) (hseeds : DistinctSeeds scenarios)
    (hz : zoneId ∈ zonesOf T (scenarios i)) (hc : cache.Alike cache') :
    Alike (SameFor T base scenarios i) RiskPipelineResult.Alike
      (runZoneTick M T zoneId gasType simTime tickId cache tierState)
      (runZoneTick M T zoneId gasType simTime tickId cache' tierState) := by
  refine Alike.bind (evaluateTick_alike hz hc) fun e e' he => ?_
  rw [he.alike.assessment, he.alike.tierState]
  have hrow : (writable T (scenarios i)).assessment e.assessment := ⟨he.isTick, he.zoneId ▸ hz⟩
  refine Alike.bind (alike_await fun _ _ hs => create_lockstep hT hseeds hrow hs) fun _ _ _ => ?_
  refine Alike.bind (r := Eq) (alike_await fun s s' hs => ?_) fun rs rs' hrs => ?_
  · have hsame := hs.sameQueries hz gasType
    have hreads : ContextBuilders.buildCounterfactualReadings T s' zoneId [gasType] none =
        ContextBuilders.buildCounterfactualReadings T s zoneId [gasType] none := by
      rw [readings_eq, readings_eq, comparedReading, comparedReading, hsame.latest]
      unfold SensorRepository.getByZoneAndGas
      rw [hs.static.sensors]
    exact .ok hreads.symm hs
  · subst hrs
    refine Alike.bind (alike_lift (.refl (fun _ => rfl) _)) fun v v' hv => ?_
    subst hv
    exact alike_pure ⟨rfl, rfl, he.alike.cache⟩

theorem runTicks_alike (hT : Function.Injective T.resolveId) (hseeds : DistinctSeeds scenarios)
    (hz : zoneId ∈ zonesOf T (scenarios i)) (timestamps : List DateTime) (hc : cache.Alike cache') :
    Alike (SameFor T base scenarios i) (List.Forall₂ RiskPipelineResult.Alike)
      (runTicks M T zoneId gasType timestamps tickId cache tierState)
      (runTicks M T zoneId gasType timestamps tickId cache' tierState) := by
  induction timestamps generalizing tickId cache cache' tierState with
  | nil => exact alike_pure .nil
  | cons simTime timestamps ih =>
    refine Alike.bind (runZoneTick_alike hT hseeds hz hc) fun r r' hr => ?_
    rw [hr.tierState]
    exact Alike.bind (ih hr.cache) fun rs rs' hrs => alike_pure (.cons hr hrs)

theorem runZone_alike (hT : Function.Injective T.resolveId) (hseeds : DistinctSeeds scenarios)
    {group : (Uuid × String) × List DateTime} (hz : group.1.1 ∈ zonesOf T (scenarios i)) :
    Alike (SameFor T base scenarios i) ZoneRun.Alike (runZone M T group) (runZone M T group) :=
  Alike.bind (runTicks_alike hT hseeds hz _ (.refl _)) fun _ _ hrs => alike_pure ⟨rfl, rfl, hrs⟩

omit [Field R] [LinearOrder R] [IsStrictOrderedRing R] in
/-- The zones that are replayed are named by the readings. -/
theorem zonePairs_zone {startTime : String} {readings : List (GeneratedReading R Uuid)}
    {pairs : List ((Uuid × String) × DateTime)}
    (hpairs : zonePairs T startTime readings = .ok pairs)
    {scenario : Scenario R} (hzones : ∀ r ∈ readings, ∀ z, T.uuidOfStr r.zoneKey = some z →
      z ∈ zonesOf T scenario) :
    ∀ group ∈ Group.group pairs, group.1.1 ∈ zonesOf T scenario := by
  intro group hgroup
  obtain ⟨p, hp, hkey⟩ := List.mem_map.1 (Group.mem_group_keys.1 (List.mem_map_of_mem hgroup))
  obtain ⟨r, hr, hz, -⟩ := mem_zonePairs hpairs hp
  rw [← hkey]
  exact hzones r hr _ hz

theorem runZones_alike (hT : Function.Injective T.resolveId) (hseeds : DistinctSeeds scenarios)
    {startTime : String} {readings : List (GeneratedReading R Uuid)} (hzones : ∀ r ∈ readings, ∀ z,
      T.uuidOfStr r.zoneKey = some z → z ∈ zonesOf T (scenarios i)) :
    Alike (SameFor T base scenarios i) (List.Forall₂ ZoneRun.Alike)
      (runZones M T startTime readings) (runZones M T startTime readings) := by
  show Alike _ _ (liftM (zonePairs T startTime readings) >>= _)
    (liftM (zonePairs T startTime readings) >>= _)
  cases hpairs : zonePairs T startTime readings with
  | error e => exact alike_lift (.error rfl)
  | ok pairs =>
    exact alike_mapM fun group hgroup =>
      runZone_alike hT hseeds (zonePairs_zone hpairs hzones group hgroup)

/-! ## What a request writes -/

section
variable {scenario : Scenario R}

omit [Field R] [LinearOrder R] [IsStrictOrderedRing R] in
theorem agentTask_writable {simTime : Instant} {tickId : ℕ} {results : Results R}
    {agent : Agent R Uuid} : Within (fun _ => True) (Writes (writable T scenario)) (fun _ => True)
      (agentTask T gasType zoneId simTime tickId results agent) := by
  refine within_await (fun s _ => ?_) fun _ _ _ => trivial
  rw [Service.get_bind]
  cases buildContextBuilders T s gasType agent.name <;> exact .refl

omit [IsStrictOrderedRing R] in
theorem runLevels_writable {simTime : Instant} {tickId : ℕ} {config : SchedulerConfig R}
    {levels : List (ExecutionLevel R Uuid)} {results : Results R} {cache : AgentCache R} :
    Within (fun _ => True) (Writes (writable T scenario)) (fun _ => True)
      (runLevels M T gasType zoneId simTime tickId config levels results cache) := by
  induction levels generalizing results cache with
  | nil => exact within_pure trivial
  | cons level levels ih =>
    refine Within.bind (within_mapM fun _ _ => agentTask_writable) fun outcomes _ => ?_
    exact Within.bind (within_lift fun _ _ => trivial) fun p _ => ih

theorem evaluateTick_writable : Within (fun _ => True) (Writes (writable T scenario))
    (fun e => IsTick T e.assessment ∧ e.assessment.zoneId = zoneId)
    (evaluateTick M T zoneId gasType simTime tickId cache tierState) := by
  refine Within.bind runLevels_writable fun p _ => ?_
  refine Within.bind (within_lift fun _ _ => trivial) fun f _ => ?_
  refine Within.bind (within_lift fun _ _ => trivial) fun j _ => ?_
  exact within_pure ⟨⟨simTime, rfl, rfl⟩, rfl⟩

theorem runZoneTick_writable (hz : zoneId ∈ zonesOf T scenario) :
    Within (fun _ => True) (Writes (writable T scenario)) (fun _ => True)
      (runZoneTick M T zoneId gasType simTime tickId cache tierState) := by
  refine Within.bind evaluateTick_writable fun e he => ?_
  refine Within.bind (within_await (fun s _ => ?_) fun _ _ _ => trivial) fun _ _ => ?_
  · refine Service.transaction_across fun a t h => ?_
    obtain ⟨-, -, rfl⟩ := RiskAssessmentRepository.create_eq_ok.1 h
    exact .single (.assessment s _ ⟨he.1, he.2 ▸ hz⟩)
  refine Within.bind (within_await (fun s _ => .refl) fun _ _ _ => trivial) fun _ _ => ?_
  exact Within.bind (within_lift fun _ _ => trivial) fun _ _ => within_pure trivial

theorem runTicks_writable (hz : zoneId ∈ zonesOf T scenario) (timestamps : List DateTime) :
    Within (fun _ => True) (Writes (writable T scenario)) (fun _ => True)
      (runTicks M T zoneId gasType timestamps tickId cache tierState) := by
  induction timestamps generalizing tickId cache tierState with
  | nil => exact within_pure trivial
  | cons simTime timestamps ih =>
    refine Within.bind (runZoneTick_writable hz) fun r _ => ?_
    exact Within.bind ih fun _ _ => within_pure trivial

theorem runZones_writable {startTime : String} {readings : List (GeneratedReading R Uuid)}
    (hzones : ∀ r ∈ readings, ∀ z, T.uuidOfStr r.zoneKey = some z → z ∈ zonesOf T scenario) :
    Within (fun _ => True) (Writes (writable T scenario)) (fun _ => True)
      (runZones M T startTime readings) := by
  refine Within.bind (within_lift fun pairs hpairs => zonePairs_zone hpairs hzones) fun pairs hp => ?_
  refine Within.mono (within_mapM (P := fun _ => True) fun group hgroup => ?_) fun _ _ => trivial
  exact Within.bind (runTicks_writable (hp group hgroup) _) fun _ _ => within_pure trivial

end

variable [FloorRing R]

omit [IsStrictOrderedRing R] in
/-- The readings that are replayed name zones of the scenario. -/
theorem persisted_zones {scenario : Scenario R} {s t : Db R Uuid}
    {p : List String × List (GeneratedReading R Uuid)}
    (h : persistBuilderScenario M T scenario s = .ok (p, t)) :
    ∀ r ∈ p.2, ∀ z, T.uuidOfStr r.zoneKey = some z → z ∈ zonesOf T scenario := by
  obtain ⟨errors, readings⟩ := p
  rcases persistBuilderScenario_eq_ok.1 h with ⟨-, -, rfl, -⟩ | ⟨-, -, h⟩
  · intro r hr
    cases hr
  · obtain ⟨_, _, hpersists, -⟩ := SimulationRunner.persistScenario_eq_ok.1 h
    exact fun r hr => (generates_reading hpersists.generated hr).zone

theorem executeBuilderScenario_alike (hT : Function.Injective T.resolveId)
    (hseeds : DistinctSeeds scenarios) : Alike (SameFor T base scenarios i) Eq
      (executeBuilderScenario M T (scenarios i)) (executeBuilderScenario M T (scenarios i)) := by
  refine Alike.bind (r := fun p q => q = p ∧ ∀ r ∈ p.2, ∀ z, T.uuidOfStr r.zoneKey = some z →
    z ∈ zonesOf T (scenarios i)) (alike_await fun s s' hs => ?_) fun p q hp => ?_
  · refine Transaction.Lockstep.transaction ?_ hs
    have hlockstep := persistBuilderScenario_lockstep (M := M) hT hseeds hs
    have hzones : ∀ p t, persistBuilderScenario M T (scenarios i) s = .ok (p, t) → ∀ r ∈ p.2, ∀ z,
        T.uuidOfStr r.zoneKey = some z → z ∈ zonesOf T (scenarios i) := fun _ _ => persisted_zones
    generalize persistBuilderScenario M T (scenarios i) s = x at hlockstep hzones
    generalize persistBuilderScenario M T (scenarios i) s' = y at hlockstep
    cases hlockstep with
    | ok h => exact .ok ⟨⟨h.1.symm, hzones _ _ rfl⟩, h.2⟩
    | error h => exact .error h
  · obtain ⟨rfl, hzones⟩ := hp
    dsimp only
    split
    · exact alike_pure rfl
    · refine Alike.bind (runZones_alike hT hseeds hzones) fun runs runs' hruns => ?_
      have hreport : report (q.1, runs') = report (q.1, runs) := report_alike hruns
      exact alike_pure hreport.symm

theorem executeBuilderScenario_writable {scenario : Scenario R} :
    Within (fun _ => True) (Writes (writable T scenario)) (fun _ => True)
      (executeBuilderScenario M T scenario) := by
  refine Within.bind (P := fun p => ∀ r ∈ p.2, ∀ z, T.uuidOfStr r.zoneKey = some z →
    z ∈ zonesOf T scenario) (within_await (fun s _ => ?_) fun s p h => ?_) fun p hp => ?_
  · exact Service.across_transaction persistBuilderScenario_writable s
  · exact persisted_zones (Service.transaction_eq_ok.1 (Prod.ext h rfl))
  · dsimp only
    split
    · exact within_pure trivial
    · exact Within.bind (runZones_writable hp) fun _ _ => within_pure trivial

end

/-! ## Requests in one process -/

section
variable [IsStrictOrderedRing R] [FloorRing R] {ι : Type} [DecidableEq ι]

/-- The requests of a process, none of them started. -/
def requests (M : Math R) (T : Text R Uuid) (scenarios : ι → Scenario R) (base : Db R Uuid) :
    Coroutine.Pool ι (Db R Uuid) (Except Exc (ScenarioExecutionResult R Uuid)) where
  tasks i := (executeBuilderScenario M T (scenarios i)).run
  state := base

variable {M : Math R} {T : Text R Uuid} {scenarios : ι → Scenario R} {base : Db R Uuid}

omit [Field R] [LinearOrder R] [IsStrictOrderedRing R] [FloorRing R] [DecidableEq ι] in
theorem apart (hT : Function.Injective T.resolveId) (hseeds : DistinctSeeds scenarios)
    (hzones : ZonesApart T base scenarios) : Coroutine.Apart (Serving T base scenarios)
      (SameFor T base scenarios) fun i => Writes (writable T (scenarios i)) where
  keeps _ _ _ hs h := hs.writes hT hseeds h
  refl _ _ := .refl
  frame _ _ _ _ _ hij hs h hw :=
    ⟨h.left, hs.writes hT hseeds hw, h.view.trans (.frame hT hseeds hzones hij hs hw)⟩

/-- **Isolation**: whatever the order in which the requests take their steps, a request that has finished
returned or raised what it does alone, and the rows of its zones and those adjacent to them are as it leaves
them alone. It has finished once it was given as many steps as it takes alone. -/
theorem isolation (hT : Function.Injective T.resolveId) (hseeds : DistinctSeeds scenarios)
    (hzones : ZonesApart T base scenarios) (hbase : Serving T base scenarios base)
    (schedule : List ι) (i : ι) :
    let alone := ScenarioBuilder.executeBuilderScenario M T (scenarios i) base
    let process := (requests M T scenarios base).run schedule
    (∀ result, process.tasks i = .done result →
      result = alone.1 ∧ SameView T base (scenarios i) alone.2 process.state) ∧
    ((∃ result, process.tasks i = .done result) ↔
      ((requests M T scenarios base).tasks i).steps base ≤ schedule.count i) := by
  have hsees : ∀ i, SameFor T base scenarios i base base := fun i => ⟨hbase, hbase, .refl base⟩
  have halike : ∀ i, Coroutine.Alike (SameFor T base scenarios i) (Except.Related Eq Eq)
      ((requests M T scenarios base).tasks i) ((requests M T scenarios base).tasks i) := fun i =>
    executeBuilderScenario_alike hT hseeds
  have hwithin : ∀ i, Coroutine.Within (Serving T base scenarios) (Writes (writable T (scenarios i)))
      (fun r => ∀ a, r = .ok a → True) ((requests M T scenarios base).tasks i) := fun i =>
    Coroutine.Within.mono executeBuilderScenario_writable fun _ _ => trivial
  have hapart := apart hT hseeds hzones
  refine ⟨fun result hdone => ?_, Coroutine.Pool.finished_iff hapart hbase hsees halike hwithin
    schedule i⟩
  obtain ⟨hresult, hview⟩ := Coroutine.Pool.result hapart hbase hsees halike hwithin schedule i hdone
  have halone : ((requests M T scenarios base).tasks i).run base =
      ScenarioBuilder.executeBuilderScenario M T (scenarios i) base :=
    congrFun (alone_executeBuilderScenario M T (scenarios i)) base
  change Except.Related Eq Eq (((requests M T scenarios base).tasks i).run base).1 result at hresult
  change SameFor T base scenarios i (((requests M T scenarios base).tasks i).run base).2 _ at hview
  rw [halone] at hresult hview
  exact ⟨hresult.eq.symm, hview.view⟩

end

/-- Zones 1 and 2, not adjacent, each with a sensor. -/
def separateZones : Db ℚ ℕ :=
  { incompatibleZones with zoneAdjacency := Table.empty, permits := Table.empty }

/-- Little gas in zone 1 and much in zone 2. -/
def gasInEachZone (i : Bool) : Scenario ℚ where
  seed := if i then 1 else 2
  startTime := "0+0"
  sensorEvents := [if i then steadyEvent "gas" "1" 0 1 else steadyEvent "gas" "2" 0 20]

/-- Two ticks in each zone, the steps of the requests taken in turn. -/
theorem isolation_gasInEachZone :
    let process := (requests Math.dyadic plainText gasInEachZone separateZones).run
      (List.replicate 13 [true, false]).flatten
    ∀ i, process.tasks i = .done (ScenarioBuilder.executeBuilderScenario Math.dyadic plainText
      (gasInEachZone i) separateZones).1 := by
  intro process i
  have hseeds : DistinctSeeds gasInEachZone := by
    unfold DistinctSeeds
    decide
  have hzones : ZonesApart plainText separateZones gasInEachZone := by
    unfold ZonesApart
    decide +kernel
  have hbase : Serving plainText separateZones gasInEachZone separateZones := by
    refine ⟨.refl _, fun _ h => ?_, fun _ _ h => ?_, fun _ _ h => ?_⟩ <;> cases h
  obtain ⟨hresult, hdone⟩ := isolation (M := Math.dyadic) (plain_resolveId_injective _) hseeds hzones
    hbase (List.replicate 13 [true, false]).flatten i
  have hsteps : ∀ i, ((requests Math.dyadic plainText gasInEachZone separateZones).tasks i).steps
      separateZones ≤ (List.replicate 13 [true, false]).flatten.count i := by decide +kernel
  obtain ⟨result, hi⟩ := hdone.2 (hsteps i)
  exact (hresult result hi).1 ▸ hi

end Async
