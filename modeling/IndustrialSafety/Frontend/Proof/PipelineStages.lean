import IndustrialSafety.Frontend.PipelineStages
import IndustrialSafety.Frontend.Proof.DecisionStability
import IndustrialSafety.Lib.Group

/-!
# Who fired a rule

The client attributes the rules of a justification by their names alone. Over what a tick persists it
attributes each of them to the component that fired it, and none is lost (`rules_attributed`).
-/

/-! ## Every agent fires a rule -/

open Py

section
variable {R Uuid : Type} [Field R] [LinearOrder R] {M : Math R} {input : AgentInput R Uuid}
  {r : AgentResult R}

theorem GasRisk.evaluate_fires {config : GasRisk.GasRiskConfig R}
    (h : GasRisk.evaluate M config input = .ok r) : r.justification.rulesFired ≠ [] := by
  obtain ⟨alarmThreshold, -, h⟩ := Except.bind_eq_ok.1 h
  obtain ⟨risk, -, h⟩ := Except.bind_eq_ok.1 h
  obtain ⟨timeToThreshold, -, h⟩ := Except.bind_eq_ok.1 h
  obtain ⟨justification, hj, h⟩ := Except.bind_eq_ok.1 h
  cases h
  unfold GasRisk.buildJustification at hj
  cases hl : (input.context.readings.getD []).getLast? with
  | none =>
    rw [hl] at hj
    cases hj
    simp
  | some latest =>
    rw [hl] at hj
    obtain ⟨pct, -, hj⟩ := Except.bind_eq_ok.1 hj
    cases hj
    dsimp only
    split <;> simp

theorem EquipmentStatus.evaluate_fires {config : EquipmentStatus.EquipmentStatusConfig R}
    (h : EquipmentStatus.evaluate M config input = .ok r) : r.justification.rulesFired ≠ [] := by
  obtain ⟨groups, -, h⟩ := Except.bind_eq_ok.1 h
  cases h
  dsimp only [EquipmentStatus.buildJustification]
  split
  · simp
  · split
    · simp
    · split <;> simp

theorem WorkerExposure.evaluate_fires {config : WorkerExposure.WorkerExposureConfig R}
    (h : WorkerExposure.evaluate M config input = .ok r) : r.justification.rulesFired ≠ [] := by
  obtain ⟨gasRisk, -, h⟩ := Except.bind_eq_ok.1 h
  cases h
  dsimp only [WorkerExposure.buildJustification]
  split
  · simp
  · split <;> split <;> simp

theorem PermitIntelligence.evaluate_fires {config : PermitIntelligence.PermitReasoningConfig R}
    (h : PermitIntelligence.evaluate config input = .ok r) : r.justification.rulesFired ≠ [] := by
  obtain ⟨gasRisk, -, h⟩ := Except.bind_eq_ok.1 h
  obtain ⟨decisions, -, h⟩ := Except.bind_eq_ok.1 h
  obtain ⟨risks, -, h⟩ := Except.bind_eq_ok.1 h
  cases h
  dsimp only [PermitIntelligence.buildJustification]
  split
  · simp
  · split
    · simp
    · split <;> simp

end

namespace Frontend

open Py Scheduler RiskFormula Justification RiskPipeline Replay

/-! ## The buckets -/

theorem foldl_pushStageRule (rules : List String) (buckets : PipelineStage → Option (List String))
    (stage : PipelineStage) : rules.foldl pushStageRule buckets stage =
      if rules.filter (stageOfRule · = stage) = [] then buckets stage
      else some ((buckets stage).getD [] ++ rules.filter (stageOfRule · = stage)) := by
  induction rules generalizing buckets with
  | nil => rfl
  | cons rule rules ih =>
    rw [List.foldl_cons, ih]
    by_cases h : stageOfRule rule = stage
    · subst h
      simp only [pushStageRule, Function.update_self, List.filter_cons, decide_true, if_true,
        Option.getD_some, reduceCtorEq, if_false]
      split
      · rename_i hnil
        rw [hnil]
      · rw [List.append_assoc, List.singleton_append]
    · simp only [pushStageRule, Function.update_of_ne (Ne.symm h), List.filter_cons, h, decide_false,
        Bool.false_eq_true, if_false]

/-- The groups are the stages with a rule, in the order of the pipeline. -/
theorem groupRulesByStage_eq (rules : List String) : groupRulesByStage rules =
    (pipelineStageOrder.filter fun stage => rules.filter (stageOfRule · = stage) ≠ []).map fun stage =>
      ⟨stage, rules.filter (stageOfRule · = stage)⟩ := by
  have hbucket : ∀ stage, rules.foldl pushStageRule (fun _ => none) stage =
      if rules.filter (stageOfRule · = stage) = [] then none
      else some (rules.filter (stageOfRule · = stage)) := fun stage =>
    foldl_pushStageRule rules (fun _ => none) stage
  unfold groupRulesByStage
  simp only [hbucket]
  refine (List.map_congr_left fun stage _ => ?_).trans
    (congrArg (List.map _) (List.filter_congr fun stage _ => ?_))
  · by_cases h : rules.filter (stageOfRule · = stage) = []
    · rw [if_pos h, h]
      rfl
    · rw [if_neg h]
      rfl
  · by_cases h : rules.filter (stageOfRule · = stage) = [] <;> simp [h]

theorem mem_groupRulesByStage {rules : List String} {g : StageRules} :
    g ∈ groupRulesByStage rules ↔ g.stage ∈ pipelineStageOrder ∧
      g.rules = rules.filter (stageOfRule · = g.stage) ∧ g.rules ≠ [] := by
  rw [groupRulesByStage_eq, List.mem_map]
  constructor
  · rintro ⟨stage, hmem, rfl⟩
    obtain ⟨horder, hne⟩ := List.mem_filter.1 hmem
    exact ⟨horder, rfl, of_decide_eq_true hne⟩
  · rintro ⟨horder, hrules, hne⟩
    rw [hrules] at hne
    refine ⟨g.stage, List.mem_filter.2 ⟨horder, decide_eq_true hne⟩, ?_⟩
    rw [← hrules]

/-- A stage is shown iff one of the rules is its own. -/
theorem mem_stages_iff {rules : List String} {stage : PipelineStage} :
    stage ∈ (groupRulesByStage rules).map StageRules.stage ↔
      stage ∈ pipelineStageOrder ∧ ∃ rule ∈ rules, stageOfRule rule = stage := by
  rw [List.mem_map]
  constructor
  · rintro ⟨g, hg, rfl⟩
    obtain ⟨horder, hrules, hne⟩ := mem_groupRulesByStage.1 hg
    obtain ⟨rule, hrule⟩ := List.exists_mem_of_ne_nil _ hne
    rw [hrules] at hrule
    obtain ⟨hrule, hown⟩ := List.mem_filter.1 hrule
    exact ⟨horder, rule, hrule, of_decide_eq_true hown⟩
  · rintro ⟨horder, rule, hrule, hown⟩
    refine ⟨⟨stage, rules.filter (stageOfRule · = stage)⟩, mem_groupRulesByStage.2 ⟨horder, rfl, ?_⟩, rfl⟩
    exact List.ne_nil_of_mem (List.mem_filter.2 ⟨hrule, decide_eq_true hown⟩)

/-- The groups that are left out are empty. -/
theorem flatMap_groupRulesByStage (rules : List String) :
    (groupRulesByStage rules).flatMap StageRules.rules =
      pipelineStageOrder.flatMap fun stage => rules.filter (stageOfRule · = stage) := by
  rw [groupRulesByStage_eq]
  generalize pipelineStageOrder = order
  induction order with
  | nil => rfl
  | cons stage order ih =>
    rw [List.flatMap_cons, ← ih]
    by_cases hempty : rules.filter (stageOfRule · = stage) = []
    · rw [List.filter_cons_of_neg (by simp [hempty]), hempty, List.nil_append]
    · rw [List.filter_cons_of_pos (by simpa using hempty), List.map_cons, List.flatMap_cons]

theorem ownRules_eq {name : String} (hname : agentStage name ∈ pipelineStageOrder) (rules : List String) :
    ownRules name rules = rules.filter (stageOfRule · = agentStage name) := by
  rw [ownRules, groupRulesByStage_eq]
  cases h : rules.filter (stageOfRule · = agentStage name) with
  | nil =>
    have hnone : ∀ g ∈ (pipelineStageOrder.filter fun stage =>
        rules.filter (stageOfRule · = stage) ≠ []).map fun stage =>
          (⟨stage, rules.filter (stageOfRule · = stage)⟩ : StageRules), g.stage ≠ agentStage name := by
      intro g hg
      obtain ⟨stage, hstage, rfl⟩ := List.mem_map.1 hg
      rintro rfl
      exact of_decide_eq_true (List.mem_filter.1 hstage).2 h
    rw [List.find?_eq_none.2 fun g hg => by simpa using hnone g hg]
    rfl
  | cons rule rest =>
    have hmem : (⟨agentStage name, rules.filter (stageOfRule · = agentStage name)⟩ : StageRules) ∈
        (pipelineStageOrder.filter fun stage => rules.filter (stageOfRule · = stage) ≠ []).map fun stage =>
          (⟨stage, rules.filter (stageOfRule · = stage)⟩ : StageRules) :=
      List.mem_map.2 ⟨_, List.mem_filter.2 ⟨hname, decide_eq_true (by simp [h])⟩, rfl⟩
    obtain ⟨g, hg⟩ := Option.isSome_iff_exists.1 ((List.find?_isSome
      (p := fun g : StageRules => g.stage = agentStage name)).2 ⟨_, hmem, decide_eq_true rfl⟩)
    obtain ⟨stage, -, rfl⟩ := List.mem_map.1 (List.mem_of_find?_eq_some hg)
    have hstage : stage = agentStage name := by simpa using List.find?_some hg
    rw [hg, ← h, ← hstage]
    rfl

theorem stageOfRule_tiering (tierBefore tierAfter : Tier) :
    stageOfRule (determineTierTransitionRule tierBefore tierAfter) = .tiering := by
  have hall : ∀ rule ∈ ["tier_stable", "tier_escalated", "tier_de_escalated"],
      stageOfRule rule = .tiering := by decide
  exact hall _ determineTierTransitionRule_mem

/-! ## The rules of a tick -/

/-- `agent_unavailable_using_last_known`, which stands for an agent's own rules. -/
def unavailable : String := "agent_unavailable_using_last_known"

section
variable {R Uuid : Type} [Field R] [LinearOrder R] [DecidableEq Uuid] {M : Math R} {T : Text R Uuid}
  {db : Db R Uuid} {zoneId : Uuid} {gasType : String} {tickId : Nat} {cache cache' : AgentCache R}

/-- The tick of an evaluation. -/
def zoneTick (M : Math R) (T : Text R Uuid) (db : Db R Uuid) (zoneId : Uuid) (gasType : String)
    (simTime : Instant) (tickId : Nat) (results : Results R) : Tick R Uuid :=
  ⟨zoneCall M T db zoneId gasType simTime tickId, results⟩

/-- The rules of an agent whose last result is used again, or of one that ran. -/
def Attributed (M : Math R) (cache : AgentCache R) (name : String) (t : Tick R Uuid)
    (r : AgentResult R) : Prop :=
  FellBack M (schedulerConfig M) cache name t ∧ r.justification.rulesFired = [unavailable] ∨
    r.justification.rulesFired ≠ [] ∧
      ∀ rule ∈ r.justification.rulesFired, stageOfRule rule = agentStage name

omit [DecidableEq Uuid] in
theorem agents_attributed {a : Agent R Uuid} (ha : a ∈ [GasRisk.agent M, EquipmentStatus.agent M,
    PermitIntelligence.agent, WorkerExposure.agent M]) {input : AgentInput R Uuid} {r : AgentResult R}
    (h : a.evaluate input = .ok r) : r.justification.rulesFired ≠ [] ∧
      ∀ rule ∈ r.justification.rulesFired, stageOfRule rule = agentStage a.name := by
  simp only [List.mem_cons, List.not_mem_nil, or_false] at ha
  rcases ha with rfl | rfl | rfl | rfl
  · have hrules : ∀ rule ∈ GasRisk.rules, stageOfRule rule = agentStage "gas_risk" := by decide
    exact ⟨GasRisk.evaluate_fires h, fun rule hrule => hrules rule (GasRisk.evaluate_rules h hrule)⟩
  · have hrules : ∀ rule ∈ EquipmentStatus.rules, stageOfRule rule = agentStage "equipment_status" := by
      decide
    exact ⟨EquipmentStatus.evaluate_fires h,
      fun rule hrule => hrules rule (EquipmentStatus.evaluate_rules h hrule)⟩
  · have hrules : ∀ rule ∈ PermitIntelligence.rules,
        stageOfRule rule = agentStage "permit_intelligence" := by decide
    exact ⟨PermitIntelligence.evaluate_fires h,
      fun rule hrule => hrules rule (PermitIntelligence.evaluate_rules h hrule)⟩
  · have hrules : ∀ rule ∈ WorkerExposure.rules, stageOfRule rule = agentStage "worker_exposure" := by
      decide
    exact ⟨WorkerExposure.evaluate_fires h,
      fun rule hrule => hrules rule (WorkerExposure.evaluate_rules h hrule)⟩

theorem zoneCall_attributed {simTime : Instant} {results : Results R}
    (h : (zoneCall M T db zoneId gasType simTime tickId).run M (schedulerConfig M) cache =
      .ok (results, cache')) {name : String} (hname : name ∈ Historical.agentNames) :
    ∃ r, results name = some r ∧
      Attributed M cache name (zoneTick M T db zoneId gasType simTime tickId results) r := by
  have hplanned : name ∈ names (executionPlan M : ExecutionPlan R Uuid).levels := by
    simp only [Historical.agentNames, List.mem_cons, List.not_mem_nil, or_false] at hname
    rcases hname with rfl | rfl | rfl | rfl <;>
      simp [executionPlan, buildDefaultExecutionPlan, GasRisk.agent, EquipmentStatus.agent,
        PermitIntelligence.agent, WorkerExposure.agent]
  obtain ⟨pre, level, post, a, heq, ha, rfl⟩ := exists_place hplanned
  have hagent : a ∈ (executionPlan M : ExecutionPlan R Uuid).levels.flatMap ExecutionLevel.agents :=
    List.mem_flatMap.2 ⟨level, heq ▸ by simp, ha⟩
  obtain ⟨r, s, hr, -, hset⟩ := (runLevels_ok executionPlan_nodup zoneCall_built h).settled pre level
    post heq a ha
  refine ⟨r, hr, ?_⟩
  generalize houtcome : (zoneCall M T db zoneId gasType simTime tickId).outcome
    (visible pre (fun _ => none) results) a = outcome at hset
  generalize hlast : cache.lastKnownResults a.name = before at hset
  cases hset with
  | genuine =>
    have hevaluate : ∀ input, a.evaluate input = .ok r → _ := fun _ => agents_attributed hagent
    refine .inr ?_
    simp only [executionPlan, buildDefaultExecutionPlan, List.flatMap_cons, List.flatMap_nil,
      List.cons_append, List.nil_append, List.append_nil, List.mem_cons, List.not_mem_nil,
      or_false] at hagent
    rcases hagent with rfl | rfl | rfl | rfl <;>
      obtain ⟨input, -, hown⟩ := Except.bind_eq_ok.1 houtcome <;> exact hevaluate _ hown
  | lastKnown e =>
    exact .inl ⟨⟨pre, level, post, a, heq, ha, rfl, e, s, houtcome, hlast, hr⟩, rfl⟩

/-- The scheduler's rule stands for an agent iff it fell back to the agent's last result. -/
theorem unavailable_iff {simTime : Instant} {results : Results R}
    (h : (zoneCall M T db zoneId gasType simTime tickId).run M (schedulerConfig M) cache =
      .ok (results, cache')) {name : String} (hname : name ∈ Historical.agentNames)
    {r : AgentResult R} (hr : results name = some r) :
    r.justification.rulesFired = [unavailable] ↔ FellBack M (schedulerConfig M) cache name
      (zoneTick M T db zoneId gasType simTime tickId results) := by
  constructor
  · intro hlast
    obtain ⟨r', hr', hattributed⟩ := zoneCall_attributed h hname
    cases hr.symm.trans hr'
    rcases hattributed with ⟨hfell, -⟩ | ⟨-, hown⟩
    · exact hfell
    · have hstages : ∀ name ∈ Historical.agentNames, agentStage name ≠ .scheduler := by decide
      refine absurd (hown unavailable (hlast ▸ List.mem_singleton_self _)) fun hstage => ?_
      exact hstages name hname (hstage.symm.trans (by decide))
  · rintro ⟨_, _, _, _, _, _, _, _, _, _, _, hlast⟩
    cases hr.symm.trans hlast
    rfl

variable [IsStrictOrderedRing R] {simTime : DateTime} {tierState : Tiering.TierState R}
  {e : Evaluation R Uuid}

/-- The rules of a tick, and who fired them. -/
theorem rulesFired_tick
    (h : evaluateTick M T db zoneId gasType simTime tickId cache tierState = .ok e) :
    e.assessment.justification.rulesFired.Nodup ∧ ∃ f : FusionResult R Uuid,
      (∀ rule ∈ f.rulesFired, rule = "weighted_sum_fusion" ∨ rule = "interaction_bonus_applied") ∧
      ∀ rule, rule ∈ e.assessment.justification.rulesFired ↔
        (∃ name ∈ Historical.agentNames, ∃ r, e.agentResults name = some r ∧
          rule ∈ r.justification.rulesFired) ∨ rule ∈ f.rulesFired ∨
        rule = determineTierTransitionRule tierState.currentTier e.tierState.currentTier := by
  obtain ⟨f, hc⟩ := evaluateTick_ok h
  obtain ⟨g, eq, p, w, hfour⟩ := run_fourResults rfl zoneCall_built hc.run
  have hgiven : Given fusionConfig e.agentResults (four g eq p w) := hfour.weights
  obtain ⟨f', hf', hfused⟩ : ∃ f, RiskFormula.fuse zoneId simTime.instant e.agentResults fusionConfig =
      .ok f ∧ RiskFormula.Fused fusionConfig (four g eq p w) f := fuse_ok hgiven
  cases hc.fuse.symm.trans hf'
  have hj := evaluateTick_justification h hc.fuse
  obtain ⟨j, hj', hbuilt⟩ : ∃ j, buildRiskAssessmentJustification e.agentResults f
      tierState.currentTier e.tierState.currentTier = .ok j ∧ Built fusionConfig (four g eq p w) f
        tierState.currentTier e.tierState.currentTier j := build_ok hgiven hfused
  cases hj.symm.trans hj'
  refine ⟨?_, f, fuse_rulesFired hc.fuse, fun rule => ?_⟩
  · rw [(build_eq_ok_iff.1 hj).2]
    exact FirstOccurrence.eraseDups_nodup _
  · rw [hbuilt.rules]
    refine or_congr_left ⟨?_, ?_⟩
    · rintro ⟨weight, hweight, hrule⟩
      have hname : weight.1 ∈ Historical.agentNames :=
        (forall_weights (P := fun name => name ∈ Historical.agentNames)).2
          (by simp [Historical.agentNames]) weight hweight
      exact ⟨weight.1, hname, _, hgiven weight hweight, hrule⟩
    · rintro ⟨name, hname, r, hr, hrule⟩
      have hname : name ∈ (fusionConfig : FusionConfig R).agentWeights.map Prod.fst := by
        simp only [Historical.agentNames, List.mem_cons, List.not_mem_nil, or_false] at hname
        rcases hname with rfl | rfl | rfl | rfl <;> simp [fusionConfig, FusionConfig.default]
      obtain ⟨weight, hweight, rfl⟩ := List.mem_map.1 hname
      rw [hgiven weight hweight] at hr
      cases hr
      exact ⟨weight, hweight, hrule⟩

/-- A rule is that of an agent, of the fusion or of the tiering. -/
theorem stage_cases
    (h : evaluateTick M T db zoneId gasType simTime tickId cache tierState = .ok e) {rule : String}
    (hrule : rule ∈ e.assessment.justification.rulesFired) :
    (∃ name ∈ Historical.agentNames, ∃ r, e.agentResults name = some r ∧
      rule ∈ r.justification.rulesFired ∧ (rule = unavailable ∧
        r.justification.rulesFired = [unavailable] ∨ stageOfRule rule = agentStage name)) ∨
    stageOfRule rule = .fusion ∨
    stageOfRule rule = .tiering ∧
      rule = determineTierTransitionRule tierState.currentTier e.tierState.currentTier := by
  obtain ⟨-, f, hfusion, hmem⟩ := rulesFired_tick h
  rcases (hmem rule).1 hrule with ⟨name, hname, r, hr, hrule⟩ | hf | htier
  · obtain ⟨f, hc⟩ := evaluateTick_ok h
    obtain ⟨r', hr', hattributed⟩ := zoneCall_attributed hc.run hname
    cases hr.symm.trans hr'
    refine .inl ⟨name, hname, r, hr, hrule, ?_⟩
    rcases hattributed with ⟨-, hlast⟩ | ⟨-, hown⟩
    · rw [hlast] at hrule
      exact .inl ⟨List.mem_singleton.1 hrule, hlast⟩
    · exact .inr (hown rule hrule)
  · rcases hfusion rule hf with rfl | rfl <;> exact .inr (.inl (by decide))
  · refine .inr (.inr ⟨?_, htier⟩)
    rw [htier]
    exact stageOfRule_tiering _ _

/-- The stage of an agent is its own. -/
theorem agentStage_of_mem {name : String} (h : name ∈ Historical.agentNames) :
    agentStage name ∈ pipelineStageOrder ∧
      agentStage name ∉ [PipelineStage.scheduler, .fusion, .tiering, .unattributed] := by
  have hall : ∀ name ∈ Historical.agentNames, agentStage name ∈ pipelineStageOrder ∧
      agentStage name ∉ [PipelineStage.scheduler, .fusion, .tiering, .unattributed] := by decide
  exact hall name h

theorem stage_mem
    (h : evaluateTick M T db zoneId gasType simTime tickId cache tierState = .ok e) {rule : String}
    (hrule : rule ∈ e.assessment.justification.rulesFired) :
    stageOfRule rule ∈ pipelineStageOrder ∧ stageOfRule rule ≠ .unattributed := by
  rcases stage_cases h hrule with ⟨name, hname, r, -, -, ⟨rfl, -⟩ | hown⟩ | hf | ⟨ht, -⟩
  · decide
  · obtain ⟨horder, hother⟩ := agentStage_of_mem hname
    rw [hown]
    exact ⟨horder, fun heq => hother (by simp [heq])⟩
  · rw [hf]
    decide
  · rw [ht]
    decide

theorem mem_ownRules
    (h : evaluateTick M T db zoneId gasType simTime tickId cache tierState = .ok e) {name : String}
    (hname : name ∈ Historical.agentNames) {r : AgentResult R} (hr : e.agentResults name = some r)
    {rule : String} : rule ∈ ownRules name e.assessment.justification.rulesFired ↔
      rule ∈ r.justification.rulesFired ∧ rule ≠ unavailable := by
  have hscheduler : stageOfRule unavailable = .scheduler := by decide
  obtain ⟨hstage, hother⟩ := agentStage_of_mem hname
  simp only [List.mem_cons, List.not_mem_nil, or_false, not_or] at hother
  rw [ownRules_eq hstage, List.mem_filter, decide_eq_true_iff]
  constructor
  · rintro ⟨hrule, hown⟩
    rcases stage_cases h hrule with ⟨name', hname', r', hr', hrule', hcase⟩ | hf | ⟨ht, -⟩
    · rcases hcase with ⟨rfl, -⟩ | hown'
      · exact absurd (hown.symm.trans hscheduler) hother.1
      · have hinjective : ∀ a ∈ Historical.agentNames, ∀ b ∈ Historical.agentNames,
            agentStage a = agentStage b → a = b := by decide
        cases hinjective name hname name' hname' (hown.symm.trans hown')
        cases hr.symm.trans hr'
        refine ⟨hrule', ?_⟩
        rintro rfl
        exact hother.1 (hown.symm.trans hscheduler)
    · exact absurd (hown.symm.trans hf) hother.2.1
    · exact absurd (hown.symm.trans ht) hother.2.2.1
  · rintro ⟨hrule, hne⟩
    obtain ⟨-, f, -, hmem⟩ := rulesFired_tick h
    refine ⟨(hmem rule).2 (.inl ⟨name, hname, r, hr, hrule⟩), ?_⟩
    obtain ⟨f, hc⟩ := evaluateTick_ok h
    obtain ⟨r', hr', hattributed⟩ := zoneCall_attributed hc.run hname
    cases hr.symm.trans hr'
    rcases hattributed with ⟨-, hlast⟩ | ⟨-, hown⟩
    · rw [hlast] at hrule
      exact absurd (List.mem_singleton.1 hrule) hne
    · exact hown rule hrule

theorem ownRules_eq_nil
    (h : evaluateTick M T db zoneId gasType simTime tickId cache tierState = .ok e) {name : String}
    (hname : name ∈ Historical.agentNames) {r : AgentResult R} (hr : e.agentResults name = some r) :
    ownRules name e.assessment.justification.rulesFired = [] ↔
      r.justification.rulesFired = [unavailable] := by
  obtain ⟨f, hc⟩ := evaluateTick_ok h
  obtain ⟨r', hr', hattributed⟩ := zoneCall_attributed hc.run hname
  cases hr.symm.trans hr'
  rw [List.eq_nil_iff_forall_not_mem]
  constructor
  · intro hnone
    refine (hattributed.resolve_right fun ⟨hfires, hown⟩ => ?_).2
    obtain ⟨rule, hrule⟩ := List.exists_mem_of_ne_nil _ hfires
    refine hnone rule ((mem_ownRules h hname hr).2 ⟨hrule, ?_⟩)
    rintro rfl
    have hscheduler : stageOfRule unavailable = .scheduler := by decide
    exact (agentStage_of_mem hname).2 (by simp [← hown _ hrule, hscheduler])
  · intro hlast rule hrule
    obtain ⟨hrule, hne⟩ := (mem_ownRules h hname hr).1 hrule
    rw [hlast] at hrule
    exact hne (List.mem_singleton.1 hrule)

/-- The scheduler has a group iff it fell back for some agent. -/
theorem scheduler_shown_iff
    (h : evaluateTick M T db zoneId gasType simTime tickId cache tierState = .ok e) :
    (∃ g ∈ groupRulesByStage e.assessment.justification.rulesFired, g.stage = .scheduler) ↔
      ∃ name ∈ Historical.agentNames, ∃ r, e.agentResults name = some r ∧
        r.justification.rulesFired = [unavailable] := by
  obtain ⟨-, f, -, hmem⟩ := rulesFired_tick h
  rw [← List.mem_map, mem_stages_iff]
  constructor
  · rintro ⟨-, rule, hrule, hown⟩
    rcases stage_cases h hrule with ⟨name, hname, r, hr, -, ⟨-, hlast⟩ | hown'⟩ | hf | ⟨ht, -⟩
    · exact ⟨name, hname, r, hr, hlast⟩
    · exact absurd (agentStage_of_mem hname).2 (by simp [← hown', hown])
    · exact absurd (hown.symm.trans hf) (by decide)
    · exact absurd (hown.symm.trans ht) (by decide)
  · rintro ⟨name, hname, r, hr, hlast⟩
    refine ⟨by decide, unavailable, (hmem unavailable).2 (.inl ⟨name, hname, r, hr, ?_⟩), by decide⟩
    rw [hlast]
    exact List.mem_singleton_self _

/-- The one rule of the tiering is that of the transition. -/
theorem tiering_rules
    (h : evaluateTick M T db zoneId gasType simTime tickId cache tierState = .ok e) :
    e.assessment.justification.rulesFired.filter (stageOfRule · = .tiering) =
      [determineTierTransitionRule tierState.currentTier e.tierState.currentTier] := by
  obtain ⟨hnodup, f, -, hmem⟩ := rulesFired_tick h
  refine List.perm_singleton.1 ((List.perm_ext_iff_of_nodup (List.Nodup.filter _ hnodup)
    (List.nodup_singleton _)).2 fun rule => ?_)
  rw [List.mem_filter, List.mem_singleton, decide_eq_true_iff]
  constructor
  · rintro ⟨hrule, htiering⟩
    rcases stage_cases h hrule with ⟨name, hname, r, -, -, ⟨rfl, -⟩ | hown⟩ | hf | ⟨-, heq⟩
    · exact absurd htiering (by decide)
    · exact absurd (agentStage_of_mem hname).2 (by simp [← hown, htiering])
    · exact absurd (htiering.symm.trans hf) (by decide)
    · exact heq
  · rintro rfl
    exact ⟨(hmem _).2 (.inr (.inr rfl)), stageOfRule_tiering _ _⟩

/-- **Every rule is shown under the component that fired it**: the rules of a tick, as the client parses
them, fall into groups of the stages of the pipeline, in its order and with none left over. The group of an
agent has the rules of the agent's own result, and is missing iff the scheduler fell back to the agent's
last result; that of the scheduler is there iff it did for some agent. The one rule of the tiering is that
of the tick's tier transition. -/
theorem rules_attributed
    (h : evaluateTick M T db zoneId gasType simTime tickId cache tierState = .ok e) :
    ∃ justification, justificationOf e.assessment = some justification ∧
      let rules := justification.rulesFired
      let groups := groupRulesByStage rules
      (groups.map StageRules.stage).Sublist pipelineStageOrder ∧
      .unattributed ∉ groups.map StageRules.stage ∧
      (groups.flatMap StageRules.rules).Perm rules ∧
      (∀ name ∈ Historical.agentNames, ∃ r, e.agentResults name = some r ∧
        (∀ rule, rule ∈ ownRules name rules ↔
          rule ∈ r.justification.rulesFired ∧ rule ≠ unavailable) ∧
        (ownRules name rules = [] ↔ r.justification.rulesFired = [unavailable]) ∧
        (r.justification.rulesFired = [unavailable] ↔ FellBack M (schedulerConfig M) cache name
          (zoneTick M T db zoneId gasType simTime.instant tickId e.agentResults))) ∧
      ((∃ g ∈ groups, g.stage = .scheduler) ↔ ∃ name ∈ Historical.agentNames, ∃ r,
        e.agentResults name = some r ∧ r.justification.rulesFired = [unavailable]) ∧
      ⟨.tiering, [determineTierTransitionRule tierState.currentTier e.tierState.currentTier]⟩ ∈ groups := by
  refine ⟨_, parseJustification_serialize e.assessment.justification, ?_⟩
  intro rules groups
  refine ⟨?_, fun hun => ?_, ?_, fun name hname => ?_, scheduler_shown_iff h, ?_⟩
  · rw [show groups = _ from groupRulesByStage_eq rules, List.map_map]
    exact (List.map_id _).symm ▸ List.filter_sublist
  · obtain ⟨-, rule, hrule, hun⟩ := mem_stages_iff.1 hun
    exact (stage_mem h hrule).2 hun
  · rw [show groups.flatMap StageRules.rules = _ from flatMap_groupRulesByStage rules]
    exact Group.flatMap_filter_perm (by decide) fun rule hrule => (stage_mem h hrule).1
  · obtain ⟨f, hc⟩ := evaluateTick_ok h
    obtain ⟨r, hr, -⟩ := zoneCall_attributed hc.run hname
    exact ⟨r, hr, fun rule => mem_ownRules h hname hr, ownRules_eq_nil h hname hr,
      unavailable_iff hc.run hname hr⟩
  · have hknown : PipelineStage.tiering ∈ pipelineStageOrder := by decide
    exact mem_groupRulesByStage.2 ⟨hknown, (tiering_rules h).symm, by simp⟩

end

/-- An open permit that cannot be read, on which Permit Intelligence fails. -/
def unreadablePlant : Db ℚ ℕ :=
  { gasPlant with permits := Table.empty.upsert ⟨30, "hot_work", 1, 0, 3600000000, 9, {}, .active⟩ }

/-- Its last result is used again, and shown under the scheduler. -/
theorem rules_attributed_unreadable : ∃ e₀ e justification, evaluateTick Math.dyadic plainText gasPlant 1
      "CO" ⟨0, 0⟩ 0 {} Tiering.TierState.initial = .ok e₀ ∧
    evaluateTick Math.dyadic plainText unreadablePlant 1 "CO" ⟨60000000, 0⟩ 1 e₀.cache e₀.tierState = .ok e ∧
    justificationOf e.assessment = some justification ∧
    let rules := justification.rulesFired
    let groups := groupRulesByStage rules
    .unattributed ∉ groups.map StageRules.stage ∧
    (groups.flatMap StageRules.rules).Perm rules ∧
    FellBack Math.dyadic (schedulerConfig Math.dyadic) e₀.cache "permit_intelligence"
      (zoneTick Math.dyadic plainText unreadablePlant 1 "CO" 60000000 1 e.agentResults) ∧
    ownRules "permit_intelligence" rules = [] ∧
    (∀ rule, rule ∈ ownRules "worker_exposure" rules ↔
      rule ∈ ["exposure_weighted_headcount", "unauthorized_presence"] ∧ rule ≠ unavailable) ∧
    (∃ g ∈ groups, g.stage = .scheduler) ∧
    ⟨.tiering, ["tier_escalated"]⟩ ∈ groups := by
  have hok : (do
      let e₀ ← evaluateTick Math.dyadic plainText gasPlant 1 "CO" ⟨0, 0⟩ 0 {} Tiering.TierState.initial
      let e ← evaluateTick Math.dyadic plainText unreadablePlant 1 "CO" ⟨60000000, 0⟩ 1 e₀.cache
        e₀.tierState
      pure (["permit_intelligence", "worker_exposure"].map fun name =>
          (e.agentResults name).map fun r => r.justification.rulesFired,
        determineTierTransitionRule e₀.tierState.currentTier e.tierState.currentTier) :
      Result (List (Option (List String)) × String)).toOption = some ([some [unavailable],
        some ["exposure_weighted_headcount", "unauthorized_presence"]], "tier_escalated") := by
    decide +kernel
  obtain ⟨e₀, he₀, hok⟩ := Except.bind_eq_ok.1 (Except.toOption_eq_some.1 hok)
  obtain ⟨e, he, hok⟩ := Except.bind_eq_ok.1 hok
  obtain ⟨hrules, htransition⟩ := Prod.mk.inj (Except.ok.inj hok)
  simp only [List.map_cons, List.map_nil, List.cons.injEq, and_true] at hrules
  obtain ⟨hpermit, hworker⟩ := hrules
  obtain ⟨justification, hj, -, hun, hperm, hown, hscheduler, htiering⟩ := rules_attributed he
  obtain ⟨p, hp, -, hnone, hfell⟩ := hown "permit_intelligence" (by decide)
  obtain ⟨w, hw, hexposure, -⟩ := hown "worker_exposure" (by decide)
  rw [hp, Option.map_some, Option.some.injEq] at hpermit
  rw [hw, Option.map_some, Option.some.injEq] at hworker
  rw [htransition] at htiering
  rw [hworker] at hexposure
  exact ⟨e₀, e, justification, he₀, he, hj, hun, hperm, hfell.1 hpermit, hnone.2 hpermit, hexposure,
    hscheduler.2 ⟨_, by decide, p, hp, hpermit⟩, htiering⟩

end Frontend
