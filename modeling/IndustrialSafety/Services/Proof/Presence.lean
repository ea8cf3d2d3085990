import IndustrialSafety.Services.Proof.RiskPipeline
import IndustrialSafety.Services.Runtime

/-!
# Unauthorized presence

Worker Exposure learns from Permit Intelligence's evidence whether the zone has an open permit. In every
tick in which it succeeds itself, whatever else fails, it reports unauthorized presence for exactly the
zones that have workers and a gas risk at the watch threshold but no open permit, or none that is known
(`unauthorized_presence_iff`).
-/

namespace RiskPipeline

open Py Scheduler

variable {R Uuid : Type} [Field R] [LinearOrder R]

/-! ## Agents that may fail -/

/-- An agent that raises instead, if there is a fault. -/
def faulty (fault : Option Exc) (a : Agent R Uuid) : Agent R Uuid where
  name := a.name
  evaluate input :=
    match fault with
    | some e => throw e
    | none => a.evaluate input

variable [DecidableEq Uuid]

/-- A tick of the default plan in which every agent but Worker Exposure may raise for a reason of its
own. -/
def faultyCall (M : Math R) (T : Text R Uuid) (db : Db R Uuid) (zoneId : Uuid) (gasType : String)
    (simTime : Instant) (tickId : Nat) (fault : String → Option Exc) : Call R Uuid where
  plan := buildDefaultExecutionPlan (faulty (fault "gas_risk") (GasRisk.agent M))
    (faulty (fault "equipment_status") (EquipmentStatus.agent M))
    (faulty (fault "permit_intelligence") PermitIntelligence.agent) (WorkerExposure.agent M)
  zoneId := zoneId
  simTime := simTime
  tickId := tickId
  contextBuilders := buildContextBuilders T db gasType

variable {M : Math R} {T : Text R Uuid} {db : Db R Uuid} {zoneId : Uuid} {gasType : String}
  {simTime : Instant} {tickId : Nat} {fault : String → Option Exc}

/-- Without faults it is the pipeline's own. -/
theorem faultyCall_none : faultyCall M T db zoneId gasType simTime tickId (fun _ => none) =
    zoneCall M T db zoneId gasType simTime tickId := rfl

theorem names_faultyCall :
    names (faultyCall M T db zoneId gasType simTime tickId fault).plan.levels =
      ["gas_risk", "equipment_status", "permit_intelligence", "worker_exposure"] := rfl

theorem faultyCall_nodup :
    (names (faultyCall M T db zoneId gasType simTime tickId fault).plan.levels).Nodup := by
  rw [names_faultyCall]
  decide

theorem faultyCall_built : (faultyCall M T db zoneId gasType simTime tickId fault).Built
    (faultyCall M T db zoneId gasType simTime tickId fault).plan.levels := by
  intro name hname
  rw [names_faultyCall] at hname
  simp only [List.mem_cons, List.not_mem_nil, or_false] at hname
  rcases hname with rfl | rfl | rfl | rfl <;> rfl

theorem genuine_permits {results : Results R} {p : AgentResult R} :
    Genuine "permit_intelligence" ⟨faultyCall M T db zoneId gasType simTime tickId fault, results⟩ p ↔
      (faultyCall M T db zoneId gasType simTime tickId fault).outcome
        (visible ((faultyCall M T db zoneId gasType simTime tickId fault).plan.levels.take 1)
          (fun _ => none) results)
        (faulty (fault "permit_intelligence") PermitIntelligence.agent) = .ok p :=
  genuine_iff faultyCall_nodup rfl
    (List.mem_singleton_self (faulty (fault "permit_intelligence") PermitIntelligence.agent))

theorem genuine_workers {results : Results R} {w : AgentResult R} :
    Genuine "worker_exposure" ⟨faultyCall M T db zoneId gasType simTime tickId fault, results⟩ w ↔
      (faultyCall M T db zoneId gasType simTime tickId fault).outcome
        (visible ((faultyCall M T db zoneId gasType simTime tickId fault).plan.levels.take 2)
          (fun _ => none) results) (WorkerExposure.agent M) = .ok w :=
  genuine_iff faultyCall_nodup rfl (List.mem_singleton_self (WorkerExposure.agent M))

/-! ## Coverage -/

/-- Permit Intelligence reports a decision iff the zone has an open permit. -/
theorem permit_decisions [IsStrictOrderedRing R] {seen : Results R} {p : AgentResult R}
    (h : (faultyCall M T db zoneId gasType simTime tickId fault).outcome seen
      (faulty (fault "permit_intelligence") PermitIntelligence.agent) = .ok p) :
    p.justification.evidence.decisions = [] ↔
      ∀ q ∈ db.permits, q.zoneId = zoneId → q.status = .closed := by
  obtain ⟨input, hinput, hp⟩ := Except.bind_eq_ok.1 h
  have hp : PermitIntelligence.evaluate PermitIntelligence.PermitReasoningConfig.default input =
      .ok p := by
    unfold faulty at hp
    dsimp only at hp
    split at hp
    · cases hp
    · exact hp
  obtain ⟨g, -, -, -, -, decisions, hdecisions, hdecided⟩ := PermitIntelligence.evaluate_ok hp
  obtain ⟨permits, hpermits, h⟩ := Except.bind_eq_ok.1 hinput
  cases h
  have hopen : permits.filter (·.status ≠ .closed) = permits := by
    refine List.filter_eq_self.2 fun permit hpermit => ?_
    obtain ⟨row, hrow, hok⟩ := Except.mem_of_mapM_eq_ok hpermits hpermit
    have hstatus := of_decide_eq_true (List.mem_filter.1 hrow).2
    rw [(toPermitRecord_ok hok).2]
    exact decide_eq_true hstatus.2
  have hdecided : List.Forall₂ _ (permits.filter (·.status ≠ .closed)) decisions := hdecided
  rw [hopen] at hdecided
  have hdecisions' : decisions = [] ↔ permits = [] := by
    rw [← List.length_eq_zero_iff, ← hdecided.length_eq, List.length_eq_zero_iff]
  have hrows : permits = [] ↔ PermitRepository.listOpenByZone db zoneId = [] := by
    have hlength := (Except.mapM_eq_ok.1 hpermits).length_eq
    rw [← List.length_eq_zero_iff, ← hlength, List.length_eq_zero_iff]
    rfl
  rw [hdecisions, List.map_eq_nil_iff, hdecisions', hrows, PermitRepository.listOpenByZone,
    List.filter_eq_nil_iff]
  simp [Table.mem_def]

omit [DecidableEq Uuid] in
/-- The rule fires iff there is a worker, no coverage, and a gas risk at the watch threshold. -/
theorem workers_rule {input : AgentInput R Uuid} {config : WorkerExposure.WorkerExposureConfig R}
    {w : AgentResult R} {workers : List WorkerPresence} (hworkers : input.context.workersPresent = some workers)
    (h : WorkerExposure.evaluate M config input = .ok w) :
    "unauthorized_presence" ∈ w.justification.rulesFired ↔ workers ≠ [] ∧
      (∃ g, input.upstreamResults "gas_risk" = some g ∧ config.watchThreshold ≤ g.risk) ∧
      (input.context.permitCoverage.getD ⟨false⟩).hasActivePermit = false := by
  obtain ⟨g, hg, h⟩ := Except.bind_eq_ok.1 h
  cases h
  rw [hworkers, Results.get_ok.1 hg]
  simp only [Option.some.injEq, exists_eq_left', WorkerExposure.buildJustification, Option.isSome_some,
    Bool.not_true, Bool.false_eq_true, ↓reduceIte, WorkerExposure.calculateUnauthorizedWorkers,
    Option.getD_some]
  by_cases hsafe : (input.context.permitCoverage.getD ⟨false⟩).hasActivePermit = true ∨
      g.risk < config.watchThreshold
  · rw [if_pos hsafe]
    refine iff_of_false (by decide) ?_
    rintro ⟨-, hwatch, hcovered⟩
    rcases hsafe with hsafe | hsafe
    · rw [hsafe] at hcovered
      cases hcovered
    · exact absurd hsafe (not_lt.2 hwatch)
  · rw [if_neg hsafe]
    rw [not_or, Bool.not_eq_true, not_lt] at hsafe
    cases workers with
    | nil => exact iff_of_false (by decide) fun h => h.1 rfl
    | cons worker workers => exact iff_of_true (by simp) ⟨by simp, hsafe.2, hsafe.1⟩

/-! ## The tick -/

/-- **Unauthorized presence is flagged exactly when it should be**: in a tick in which Worker Exposure
succeeds itself, whatever the other agents do, iff a worker is in the zone, the gas risk used is at the
watch threshold, and either no permit of the zone is open or Permit Intelligence has failed. -/
theorem unauthorized_presence_iff [IsStrictOrderedRing R] {config : SchedulerConfig R}
    {cache cache' : AgentCache R} {results : Results R}
    (h : (faultyCall M T db zoneId gasType simTime tickId fault).run M config cache =
      .ok (results, cache')) {w : AgentResult R}
    (hw : Genuine "worker_exposure" ⟨faultyCall M T db zoneId gasType simTime tickId fault, results⟩ w) :
    results "worker_exposure" = some w ∧
    ("unauthorized_presence" ∈ w.justification.rulesFired ↔
      (∃ worker ∈ db.workers, worker.currentZoneId = some zoneId) ∧
      (∃ g, results "gas_risk" = some g ∧
        (WorkerExposure.WorkerExposureConfig.default M).watchThreshold ≤ g.risk) ∧
      ((∀ permit ∈ db.permits, permit.zoneId = zoneId → permit.status = .closed) ∨
        ∀ p, ¬Genuine "permit_intelligence"
          ⟨faultyCall M T db zoneId gasType simTime tickId fault, results⟩ p)) := by
  have hs := runLevels_ok faultyCall_nodup faultyCall_built h
  obtain ⟨p, _, hp, -, hsettled⟩ := hs.settled [_] _ _ rfl
    (faulty (fault "permit_intelligence") PermitIntelligence.agent) (List.mem_singleton_self _)
  obtain ⟨w', _, hw', -, hwsettled⟩ :=
    hs.settled [_, _] _ _ rfl (WorkerExposure.agent M) (List.mem_singleton_self _)
  have hown := genuine_workers.1 hw
  have hwsettled : Settled M simTime config (.ok w) _ w' _ := hown ▸ hwsettled
  obtain rfl : w' = w := by
    cases hwsettled
    rfl
  refine ⟨hw', ?_⟩
  obtain ⟨input, hinput, hevaluate⟩ := Except.bind_eq_ok.1 hown
  cases hinput
  rw [workers_rule rfl hevaluate]
  refine and_congr ?_ (and_congr Iff.rfl ?_)
  · rw [ne_eq, List.map_eq_nil_iff, WorkerRepository.listByCurrentZone, List.filter_eq_nil_iff]
    simp only [Table.mem_def, decide_eq_true_eq, not_forall, not_not, exists_prop]
    exact Iff.rfl
  · have hcoverage : (ContextBuilders.derivePermitCoverage (some p)).hasActivePermit = false ↔
        p.justification.evidence.decisions = [] := by
      simp [ContextBuilders.derivePermitCoverage]
    refine Iff.trans ?_ (hcoverage.trans ?_)
    · rw [← hp]
      exact Iff.rfl
    · generalize ho : (faultyCall M T db zoneId gasType simTime tickId fault).outcome _ _ = o at hsettled
      generalize cache.lastKnownResults _ = before at hsettled
      cases hsettled with
      | genuine =>
        rw [permit_decisions ho]
        exact (or_iff_left fun hno => hno p (genuine_permits.2 ho)).symm
      | lastKnown e s =>
        refine iff_of_true rfl (.inr fun p' hp' => ?_)
        cases ho.symm.trans (genuine_permits.1 hp')

/-- A cached gas risk of 50. -/
def gasCache : AgentCache ℚ :=
  ⟨fun name => if name = "gas_risk" then some ⟨"gas_risk", 50, 1, ⟨[], .lastKnown 0 0 1⟩, 0, 1⟩ else none⟩

/-- A tick of zone 2, which has a worker and no sensor. -/
def workerCall : Call ℚ ℕ :=
  faultyCall Math.dyadic plainText Runtime.plant 2 "CO" 0 0 fun _ => none

/-- The cached gas risk counts. -/
theorem unauthorized_presence_cached : ∃ results cache' w,
    workerCall.run Math.dyadic (schedulerConfig Math.dyadic) gasCache = .ok (results, cache') ∧
    results "worker_exposure" = some w ∧ "unauthorized_presence" ∈ w.justification.rulesFired := by
  have hrun : (workerCall.run Math.dyadic (schedulerConfig Math.dyadic) gasCache).toOption.map
      (fun p => (p.1 "gas_risk").map AgentResult.risk) = some (some 50) := by decide +kernel
  obtain ⟨⟨results, cache'⟩, hrun, hgas⟩ := Except.toOption_map_eq_some.1 hrun
  obtain ⟨g, hg, hrisk⟩ := Option.map_eq_some_iff.1 hgas
  have hseen : visible (workerCall.plan.levels.take 2) (fun _ => none) results "gas_risk" = some g := hg
  obtain ⟨w, hw⟩ : ∃ w, workerCall.outcome (visible (workerCall.plan.levels.take 2) (fun _ => none)
      results) (WorkerExposure.agent Math.dyadic) = .ok w :=
    Except.bind_total ⟨_, rfl⟩ fun input hinput => by
      cases hinput
      exact WorkerExposure.evaluate_total hseen
  have h := unauthorized_presence_iff hrun (genuine_workers.2 hw)
  refine ⟨results, cache', w, hrun, h.1, h.2.2 ⟨?_, ⟨g, hg, ?_⟩, .inl ?_⟩⟩
  · exact ⟨⟨9, "operator", some 2⟩, List.mem_singleton.2 rfl, rfl⟩
  · rw [hrisk]
    exact (by norm_num : (40 : ℚ) ≤ 50)
  · exact nofun

end RiskPipeline
