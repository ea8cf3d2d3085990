import IndustrialSafety.Agents.Proof.Mono
import IndustrialSafety.Orchestrator.Counterfactual
import IndustrialSafety.Orchestrator.Proof.RiskFormula
import IndustrialSafety.Orchestrator.Proof.Scheduler
import IndustrialSafety.Orchestrator.Proof.Tiering
import IndustrialSafety.Services.Engine

/-!
# One tick of the engine

The scheduler and the fusion on given contexts (`Contexts`), whatever the cache:

* `run_evaluated`: the results of a tick whose agents all succeed, by their `evaluate`.
* `run_total`: with a non-zero alarm threshold and known isolation statuses every agent succeeds.
* `tick_mono`: a tick on worse contexts has every risk and the compound score at least as high.
-/

namespace RiskPipeline

open Py Scheduler RiskFormula

variable {R Uuid : Type} [Field R] [LinearOrder R]

/-! ## Ticks on given contexts -/

/-- What the four agents read in a tick. Worker Exposure's permit coverage is taken from the results
so far. -/
structure Contexts (R Uuid : Type) where
  gasRisk : AgentContext R Uuid
  equipmentStatus : AgentContext R Uuid
  permitIntelligence : AgentContext R Uuid
  workerExposure : Results R → AgentContext R Uuid

/-- The context of an agent. -/
def Contexts.get (k : Contexts R Uuid) (name : String) (results : Results R) :
    Option (AgentContext R Uuid) :=
  if name = "gas_risk" then some k.gasRisk
  else if name = "equipment_status" then some k.equipmentStatus
  else if name = "permit_intelligence" then some k.permitIntelligence
  else if name = "worker_exposure" then some (k.workerExposure results)
  else none

/-- The tick's call of the scheduler. -/
def Contexts.call (k : Contexts R Uuid) (M : Math R) (zoneId : Uuid) (simTime : Instant)
    (tickId : Nat) : Call R Uuid where
  plan := executionPlan M
  zoneId := zoneId
  simTime := simTime
  tickId := tickId
  contextBuilders name := some fun z t i results =>
    match k.get name results with
    | some context => pure ⟨z, t, i, results, context⟩
    | none => throw (.keyError name)

section
variable {M : Math R}

@[simp] theorem names_executionPlan :
    names (executionPlan M : ExecutionPlan R Uuid).levels =
      ["gas_risk", "equipment_status", "permit_intelligence", "worker_exposure"] := rfl

theorem executionPlan_nodup : (names (executionPlan M : ExecutionPlan R Uuid).levels).Nodup := by
  rw [names_executionPlan]
  decide

end

/-- Every agent of the tick succeeded. -/
def Succeeds (t : Tick R Uuid) : Prop :=
  ∀ pre level post a, t.call.plan.levels = pre ++ level :: post → a ∈ level.agents →
    ∃ r, t.call.outcome (t.seen pre) a = .ok r

section
variable {M : Math R} {k : Contexts R Uuid} {zoneId : Uuid} {simTime : Instant} {tickId : Nat}
  {cache cache' : AgentCache R} {results : Results R}

/-- The four results of a tick. -/
structure FourResults (results : Results R) (g e p w : AgentResult R) : Prop where
  gas : results "gas_risk" = some g
  equipment : results "equipment_status" = some e
  permits : results "permit_intelligence" = some p
  workers : results "worker_exposure" = some w
  only : ∀ name, name ∉ ["gas_risk", "equipment_status", "permit_intelligence",
    "worker_exposure"] → results name = none

/-- The four results of a tick whose agents all succeeded, by their `evaluate`. -/
structure Evaluated (M : Math R) (k : Contexts R Uuid) (zoneId : Uuid) (simTime : Instant)
    (tickId : Nat) (results : Results R) (g e p w : AgentResult R) : Prop where
  four : FourResults results g e p w
  gas : GasRisk.evaluate M (GasRisk.GasRiskConfig.default M)
    ⟨zoneId, simTime, tickId, fun _ => none, k.gasRisk⟩ = .ok g
  equipment : EquipmentStatus.evaluate M (EquipmentStatus.EquipmentStatusConfig.default M)
    ⟨zoneId, simTime, tickId, fun _ => none, k.equipmentStatus⟩ = .ok e
  permits : ∃ seen : Results R, seen "gas_risk" = some g ∧
    PermitIntelligence.evaluate PermitIntelligence.PermitReasoningConfig.default
      ⟨zoneId, simTime, tickId, seen, k.permitIntelligence⟩ = .ok p
  workers : ∃ seen : Results R, seen "gas_risk" = some g ∧
    WorkerExposure.evaluate M (WorkerExposure.WorkerExposureConfig.default M)
      ⟨zoneId, simTime, tickId, seen, k.workerExposure seen⟩ = .ok w

theorem run_fourResults {c : Call R Uuid} (hplan : c.plan = executionPlan M)
    (hb : c.Built c.plan.levels) {config : SchedulerConfig R}
    (h : c.run M config cache = .ok (results, cache')) :
    ∃ g e p w, FourResults results g e p w := by
  have hs := runLevels_ok (by rw [hplan]; exact executionPlan_nodup) hb h
  rw [hplan] at hs
  obtain ⟨g, -, hg, -⟩ := hs.settled [] _ _ rfl (GasRisk.agent M) (by simp)
  obtain ⟨e, -, he, -⟩ := hs.settled [] _ _ rfl (EquipmentStatus.agent M) (by simp)
  obtain ⟨p, -, hp, -⟩ := hs.settled [_] _ _ rfl PermitIntelligence.agent (by simp)
  obtain ⟨w, -, hw, -⟩ := hs.settled [_, _] _ _ rfl (WorkerExposure.agent M) (by simp)
  exact ⟨g, e, p, w, hg, he, hp, hw, fun n hn => (hs.frame n hn).1⟩

theorem Contexts.call_built (k : Contexts R Uuid) :
    (k.call M zoneId simTime tickId).Built (k.call M zoneId simTime tickId).plan.levels :=
  fun _ _ => rfl

theorem run_evaluated {config : SchedulerConfig R}
    (h : (k.call M zoneId simTime tickId).run M config cache = .ok (results, cache'))
    (hs : Succeeds ⟨k.call M zoneId simTime tickId, results⟩) :
    ∃ g e p w, Evaluated M k zoneId simTime tickId results g e p w := by
  have hlevels := runLevels_ok executionPlan_nodup k.call_built h
  -- an agent's result is its own outcome
  have hown : ∀ pre level post a, (executionPlan M : ExecutionPlan R Uuid).levels =
      pre ++ level :: post → a ∈ level.agents → ∃ r, results a.name = some r ∧
        (k.call M zoneId simTime tickId).outcome (visible pre (fun _ => none) results) a = .ok r := by
    intro pre level post a heq ha
    obtain ⟨r, hr⟩ := hs pre level post a heq ha
    obtain ⟨r', s, hr', -, hset⟩ := hlevels.settled pre level post heq a ha
    have hr : (k.call M zoneId simTime tickId).outcome (visible pre (fun _ => none) results) a =
      .ok r := hr
    rw [hr] at hset
    cases hset
    exact ⟨r, hr', hr⟩
  obtain ⟨g, hg, hg'⟩ := hown [] _ _ (GasRisk.agent M) rfl (by simp)
  obtain ⟨e, he, he'⟩ := hown [] _ _ (EquipmentStatus.agent M) rfl (by simp)
  obtain ⟨p, hp, hp'⟩ := hown [_] _ _ PermitIntelligence.agent rfl (by simp)
  obtain ⟨w, hw, hw'⟩ := hown [_, _] _ _ (WorkerExposure.agent M) rfl (by simp)
  refine ⟨g, e, p, w, ⟨hg, he, hp, hw, fun n hn => (hlevels.frame n hn).1⟩, ?_, ?_,
    ⟨_, ?_, hp'⟩, ⟨_, ?_, hw'⟩⟩
  · rwa [visible_nil] at hg'
  · rwa [visible_nil] at he'
  · rw [visible, if_pos (by simp [GasRisk.agent])]
    exact hg
  · rw [visible, if_pos (by simp [GasRisk.agent])]
    exact hg

/-- The agents of the later levels never fail, and those of the first do not on these contexts. -/
theorem outcome_total {alarmThreshold : R} (ht : k.gasRisk.alarmThreshold = some alarmThreshold)
    (h0 : alarmThreshold ≠ 0)
    (he : ∃ groups, EquipmentStatus.calculateDegradedGroups (k.equipmentStatus.equipment.getD []) =
      .ok groups) {seen : Results R} {a : Agent R Uuid}
    {pre post : List (ExecutionLevel R Uuid)} {level : ExecutionLevel R Uuid}
    (heq : (executionPlan M : ExecutionPlan R Uuid).levels = pre ++ level :: post)
    (ha : a ∈ level.agents) (hseen : pre ≠ [] → ∃ g, seen "gas_risk" = some g) :
    ∃ r, (k.call M zoneId simTime tickId).outcome seen a = .ok r := by
  match pre with
  | [] =>
    obtain ⟨rfl, -⟩ := List.cons.inj heq
    simp only [List.mem_cons, List.not_mem_nil, or_false] at ha
    rcases ha with rfl | rfl
    · change ∃ r, GasRisk.evaluate M _ ⟨zoneId, simTime, tickId, seen, k.gasRisk⟩ = .ok r
      exact GasRisk.evaluate_total ht h0 (by simp [GasRisk.GasRiskConfig.default])
    · change ∃ r, EquipmentStatus.evaluate M _
        ⟨zoneId, simTime, tickId, seen, k.equipmentStatus⟩ = .ok r
      exact Except.bind_total he fun _ _ => ⟨_, rfl⟩
  | [_] =>
    obtain ⟨g, hg⟩ := hseen (by simp)
    obtain ⟨-, heq⟩ := List.cons.inj heq
    obtain ⟨rfl, -⟩ := List.cons.inj heq
    cases List.mem_singleton.1 ha
    change ∃ r, PermitIntelligence.evaluate _
      ⟨zoneId, simTime, tickId, seen, k.permitIntelligence⟩ = .ok r
    exact PermitIntelligence.evaluate_total hg
  | [_, _] =>
    obtain ⟨g, hg⟩ := hseen (by simp)
    obtain ⟨-, heq⟩ := List.cons.inj heq
    obtain ⟨-, heq⟩ := List.cons.inj heq
    obtain ⟨rfl, -⟩ := List.cons.inj heq
    cases List.mem_singleton.1 ha
    change ∃ r, WorkerExposure.evaluate M _
      ⟨zoneId, simTime, tickId, seen, k.workerExposure seen⟩ = .ok r
    exact WorkerExposure.evaluate_total hg
  | _ :: _ :: _ :: _ =>
    have := congrArg List.length heq
    simp [executionPlan, buildDefaultExecutionPlan] at this

/-- The first level has Gas Risk. -/
theorem first_level {pre post : List (ExecutionLevel R Uuid)} {level : ExecutionLevel R Uuid}
    (heq : (executionPlan M : ExecutionPlan R Uuid).levels = pre ++ level :: post) (hpre : pre ≠ []) :
    ∃ pre', pre = ⟨[GasRisk.agent M, EquipmentStatus.agent M]⟩ :: pre' := by
  obtain ⟨l, pre', rfl⟩ := List.exists_cons_of_ne_nil hpre
  obtain ⟨rfl, -⟩ := List.cons.inj heq
  exact ⟨pre', rfl⟩

/-- A tick completes, whatever the cache, if no agent fails; all but those of the first level see a gas
risk. -/
theorem run_returns {c : Call R Uuid} (hplan : c.plan = executionPlan M) (hb : c.Built c.plan.levels)
    (houtcome : ∀ pre level post a (seen : Results R), (executionPlan M).levels = pre ++ level :: post →
      a ∈ level.agents → (pre ≠ [] → ∃ g, seen "gas_risk" = some g) → ∃ r, c.outcome seen a = .ok r)
    (config : SchedulerConfig R) : ∃ p, c.run M config cache = .ok p := by
  have hn : (names c.plan.levels).Nodup := by
    rw [hplan]
    exact executionPlan_nodup
  cases hrun : c.run M config cache with
  | ok p => exact ⟨p, rfl⟩
  | error e =>
    obtain ⟨pre, level, post, heq, results₁, cache₁, hpre, a, ha, ⟨e', hfail⟩, -⟩ :=
      (runLevels_error hn hb).1 ⟨e, hrun⟩
    have hseen : pre ≠ [] → ∃ g, results₁ "gas_risk" = some g := by
      intro hne
      rw [heq, names_append] at hn
      have hbpre : c.Built pre := fun name hname => by
        refine hb name ?_
        rw [heq, names_append]
        exact List.mem_append_left _ hname
      have hs := runLevels_ok hn.of_append_left hbpre hpre
      obtain ⟨pre', rfl⟩ := first_level (hplan ▸ heq) hne
      obtain ⟨g, -, hg, -⟩ := hs.settled [] _ pre' rfl (GasRisk.agent M) (by simp)
      exact ⟨g, hg⟩
    obtain ⟨r, hr⟩ := houtcome pre level post a results₁ (hplan ▸ heq) ha hseen
    cases hr.symm.trans hfail

/-- With a non-zero threshold and known isolation statuses a tick completes, whatever the cache, and
every agent succeeds. -/
theorem run_total {alarmThreshold : R} (ht : k.gasRisk.alarmThreshold = some alarmThreshold)
    (h0 : alarmThreshold ≠ 0)
    (he : ∃ groups, EquipmentStatus.calculateDegradedGroups (k.equipmentStatus.equipment.getD []) =
      .ok groups) (config : SchedulerConfig R) :
    ∃ results cache', (k.call M zoneId simTime tickId).run M config cache = .ok (results, cache') ∧
      Succeeds ⟨k.call M zoneId simTime tickId, results⟩ := by
  obtain ⟨⟨results, cache'⟩, hrun⟩ := run_returns rfl k.call_built
    (fun _ _ _ _ _ heq ha hseen => outcome_total ht h0 he heq ha hseen) config
  refine ⟨results, cache', hrun, fun pre level post a heq ha => outcome_total ht h0 he heq ha ?_⟩
  intro hne
  obtain ⟨g, e, p, w, hfour⟩ := run_fourResults rfl k.call_built hrun
  obtain ⟨pre', rfl⟩ := first_level heq hne
  refine ⟨g, ?_⟩
  rw [Tick.seen, visible, if_pos (by simp [GasRisk.agent])]
  exact hfour.gas

/-! ## Worse contexts -/

/-- A tick on contexts that are worse in any combination of ways. -/
structure Contexts.Worse (k k' : Contexts R Uuid) : Prop where
  gasRisk : GasRisk.Worse k.gasRisk k'.gasRisk
  equipmentStatus : EquipmentStatus.Worse k.equipmentStatus k'.equipmentStatus
  permitIntelligence : PermitIntelligence.Worse k.permitIntelligence k'.permitIntelligence
  workerExposure : ∀ seen seen',
    WorkerExposure.Worse (k.workerExposure seen) (k'.workerExposure seen')

variable [IsStrictOrderedRing R]

/-- The weighted agents have the results `g`, `e`, `p`, `w`. -/
def four (g e p w : AgentResult R) (name : String) : AgentResult R :=
  if name = "gas_risk" then g
  else if name = "equipment_status" then e
  else if name = "permit_intelligence" then p
  else w

theorem forall_weights {P : String → Prop} : (∀ p ∈ (fusionConfig : FusionConfig R).agentWeights,
    P p.1) ↔ P "gas_risk" ∧ P "permit_intelligence" ∧ P "worker_exposure" ∧ P "equipment_status" := by
  simp [fusionConfig, FusionConfig.default]

omit [IsStrictOrderedRing R] in
theorem FourResults.weights [IsStrictOrderedRing R] {g e p w : AgentResult R}
    (h : FourResults results g e p w) : ∀ p' ∈ (fusionConfig : FusionConfig R).agentWeights,
      results p'.1 = some (four g e p w p'.1) :=
  (forall_weights (P := fun n => results n = some (four g e p w n))).2
    ⟨h.gas, h.permits, h.workers, h.equipment⟩

theorem FourResults.fuse {g e p w : AgentResult R} (h : FourResults results g e p w) (zoneId : Uuid)
    (simTime : Instant) : ∃ f, fuse zoneId simTime results fusionConfig = .ok f ∧
      Fused fusionConfig (four g e p w) f :=
  fuse_ok h.weights

/-- **A worse tick scores higher.** -/
theorem tick_mono (M : Math R) {k k' : Contexts R Uuid} (hw : k.Worse k')
    (hok : GasRisk.ContextOk k.gasRisk) (zoneId : Uuid) (simTime : Instant)
    (tickId tickId' : Nat) {cache cache' cache₁ cache₁' : AgentCache R} {results results' : Results R}
    (h : (k.call M zoneId simTime tickId).run M (schedulerConfig M) cache = .ok (results, cache₁))
    (h' : (k'.call M zoneId simTime tickId').run M (schedulerConfig M) cache' =
      .ok (results', cache₁'))
    (hs : Succeeds ⟨k.call M zoneId simTime tickId, results⟩)
    (hs' : Succeeds ⟨k'.call M zoneId simTime tickId', results'⟩) :
    (∀ name r r', results name = some r → results' name = some r' → r.risk ≤ r'.risk) ∧
      ∃ f f', fuse zoneId simTime results fusionConfig = .ok f ∧
        fuse zoneId simTime results' fusionConfig = .ok f' ∧
          f.compoundRiskScore ≤ f'.compoundRiskScore := by
  obtain ⟨g, e, p, w, hev⟩ := run_evaluated h hs
  obtain ⟨g', e', p', w', hev'⟩ := run_evaluated h' hs'
  obtain ⟨seen, hseen, hp⟩ := hev.permits
  obtain ⟨seen', hseen', hp'⟩ := hev'.permits
  obtain ⟨seenw, hseenw, hwk⟩ := hev.workers
  obtain ⟨seenw', hseenw', hwk'⟩ := hev'.workers
  have hgas : g.risk ≤ g'.risk := GasRisk.evaluate_mono hw.gasRisk hok.threshold_pos hev.gas hev'.gas rfl
  have hequip : e.risk ≤ e'.risk :=
    EquipmentStatus.evaluate_mono hw.equipmentStatus hev.equipment hev'.equipment
  have hpermits : p.risk ≤ p'.risk := by
    refine PermitIntelligence.evaluate_mono hw.permitIntelligence (fun a a' ha ha' => ?_) hp hp'
    cases hseen.symm.trans ha
    cases hseen'.symm.trans ha'
    exact hgas
  have hworkers : w.risk ≤ w'.risk := by
    refine WorkerExposure.evaluate_mono (hw.workerExposure seenw seenw') (fun a a' ha ha' => ?_)
      hwk hwk'
    cases hseenw.symm.trans ha
    cases hseenw'.symm.trans ha'
    exact hgas
  have hnonneg : ∀ n ∈ (fusionConfig : FusionConfig R).agentWeights,
      0 ≤ (four g' e' p' w' n.1).risk := by
    refine (forall_weights (P := fun n => 0 ≤ (four g' e' p' w' n).risk)).2 ⟨?_, ?_, ?_, ?_⟩
    · exact (GasRisk.evaluate_inRange hok hev.gas).risk_nonneg.trans hgas
    · obtain ⟨_, -, hrisk, -⟩ := PermitIntelligence.evaluate_ok hp'
      exact hrisk ▸ (PermitIntelligence.riskOfRank_range _).1
    · exact (WorkerExposure.evaluate_inRange hwk').risk_nonneg
    · exact (EquipmentStatus.evaluate_inRange hev'.equipment).risk_nonneg
  refine ⟨fun name r r' hr hr' => ?_, ?_⟩
  · by_cases hname : name ∈ ["gas_risk", "equipment_status", "permit_intelligence",
        "worker_exposure"]
    · obtain ⟨hg, he, hp, hw, -⟩ := hev.four
      obtain ⟨hg', he', hp', hw', -⟩ := hev'.four
      simp only [List.mem_cons, List.not_mem_nil, or_false] at hname
      rcases hname with rfl | rfl | rfl | rfl <;> simp_all
    · rw [hev.four.only name hname] at hr
      cases hr
  · obtain ⟨f, hf, hfused⟩ := hev.four.fuse zoneId simTime
    obtain ⟨f', hf', hfused'⟩ := hev'.four.fuse zoneId simTime
    refine ⟨f, f', hf, hf', ?_⟩
    rw [hfused.score, hfused'.score]
    exact compound_mono default_nonneg hnonneg
      ((forall_weights (P := fun n => (four g e p w n).risk ≤ (four g' e' p' w' n).risk)).2
        ⟨hgas, hpermits, hworkers, hequip⟩)

end

/-! ## A zone with nothing but a sensor -/

/-- One fresh reading against a threshold of 10; nothing else in the zone. -/
def quietContexts {R Uuid : Type} [Field R] (value : R) : Contexts R Uuid where
  gasRisk := { readings := some [⟨0, value⟩], alarmThreshold := some 10 }
  equipmentStatus := { equipment := some [] }
  permitIntelligence := { permits := some [], adjacentZones := some [] }
  workerExposure _ := { workersPresent := some [] }

section
variable {M : Math R} [IsStrictOrderedRing R] {zoneId : Uuid} {tickId : Nat}

theorem quietContexts_total (value : R) (cache : AgentCache R) : ∃ results cache',
    ((quietContexts value).call M zoneId 0 tickId).run M (schedulerConfig M) cache =
      .ok (results, cache') ∧ Succeeds ⟨(quietContexts value).call M zoneId 0 tickId, results⟩ :=
  run_total rfl (by norm_num) ⟨_, rfl⟩ (schedulerConfig M)

/-- Only the gas agent has a risk, that of its reading. -/
theorem quietContexts_risks {value : R} {results : Results R} {g e p w : AgentResult R}
    (h : Evaluated M (quietContexts value) zoneId 0 tickId results g e p w) :
    g.risk = M.saturate 100 (2 * M.ln2) (value / 10) ∧ e.risk = 0 ∧ p.risk = 0 ∧ w.risk = 0 := by
  obtain ⟨-, hgas, hequip, ⟨seen, -, hpermits⟩, seen', -, hworkers⟩ := h
  refine ⟨?_, ?_, ?_, ?_⟩
  · obtain ⟨t, ht, hrisk, -⟩ := GasRisk.evaluate_ok hgas
    cases ht
    rcases GasRisk.calculateRisk_ok.1 hrisk with ⟨hn, -⟩ | ⟨latest, hl, -, hr⟩
    · cases hn
    · cases hl
      exact hr.trans (GasRisk.readingRisk_fresh rfl)
  · obtain ⟨groups, hg, hrisk, -⟩ := EquipmentStatus.evaluate_ok hequip
    rw [hrisk, EquipmentStatus.calculateRisk, if_pos (.inl rfl)]
  · obtain ⟨gasRisk, -, hrisk, -⟩ := PermitIntelligence.evaluate_ok hpermits
    exact hrisk
  · obtain ⟨gasRisk, -, hrisk, -⟩ := WorkerExposure.evaluate_ok hworkers
    rw [hrisk, WorkerExposure.calculateRisk, if_pos (by simp [quietContexts, WorkerExposure.headcount])]

end

/-- A higher reading. -/
theorem tick_mono_quiet : ∃ results results' f f',
    fuse 0 0 results (fusionConfig : FusionConfig ℚ) = .ok f ∧
      fuse 0 0 results' (fusionConfig : FusionConfig ℚ) = .ok f' ∧
        f.compoundRiskScore ≤ f'.compoundRiskScore := by
  obtain ⟨results, cache₁, h, hs⟩ := quietContexts_total (M := Math.dyadic) (5 : ℚ) {}
  obtain ⟨results', cache₁', h', hs'⟩ := quietContexts_total (M := Math.dyadic) (10 : ℚ) {}
  have hw : (quietContexts (5 : ℚ)).Worse (quietContexts (10 : ℚ) : Contexts ℚ ℕ) := by
    refine ⟨⟨rfl, ?_, rfl, rfl⟩, .nil, ⟨rfl, .nil, .nil⟩, fun _ _ => .slnil⟩
    rintro l l' ⟨⟩ ⟨⟩
    norm_num
  have hok : GasRisk.ContextOk (quietContexts (5 : ℚ) : Contexts ℚ ℕ).gasRisk := by
    refine ⟨?_, nofun, ?_⟩
    · rintro t ⟨⟩
      norm_num
    · rintro l ⟨⟩
      norm_num
  obtain ⟨-, f, f', hf, hf', hle⟩ := tick_mono Math.dyadic hw hok 0 0 0 0 h h' hs hs'
  exact ⟨results, results', f, f', hf, hf', hle⟩

end RiskPipeline
