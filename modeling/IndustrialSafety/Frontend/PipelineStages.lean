import IndustrialSafety.Frontend.Justification
import IndustrialSafety.Frontend.ScenarioBuilderValidation

/-!
# The stages of the pipeline

`frontend/src/lib/pipelineStages.ts`: the rules of a justification grouped by the stage that fired them.
-/

namespace Frontend

/-- A key of the buckets: a stage, or what an object inherits under the name of a rule. -/
inductive PipelineStage
  | scheduler | gasRiskAgent | equipmentStatusAgent | workerExposureAgent | permitIntelligenceAgent
  | fusion | tiering | unattributed
  | inherited (rule : String)
deriving DecidableEq, Repr

/-- `PIPELINE_STAGE_ORDER`. -/
def pipelineStageOrder : List PipelineStage :=
  [.scheduler, .gasRiskAgent, .equipmentStatusAgent, .workerExposureAgent, .permitIntelligenceAgent,
    .fusion, .tiering, .unattributed]

/-- `RULE_STAGE`. -/
def ruleStage : List (String × PipelineStage) := [
  ("agent_unavailable_using_last_known", .scheduler),
  ("missing_data_fail_safe", .gasRiskAgent),
  ("stale_data_fail_safe", .gasRiskAgent),
  ("saturating_threshold_function", .gasRiskAgent),
  ("insufficient_history", .gasRiskAgent),
  ("missing_equipment_context", .equipmentStatusAgent),
  ("confirmed_empty_inventory", .equipmentStatusAgent),
  ("no_degradation", .equipmentStatusAgent),
  ("common_cause_grouped_degradation_count", .equipmentStatusAgent),
  ("missing_location_fail_safe", .workerExposureAgent),
  ("exposure_weighted_headcount", .workerExposureAgent),
  ("unauthorized_presence", .workerExposureAgent),
  ("fail_open_never", .permitIntelligenceAgent),
  ("no_open_permits", .permitIntelligenceAgent),
  ("permit_status_escalated", .permitIntelligenceAgent),
  ("permits_within_policy", .permitIntelligenceAgent),
  ("weighted_sum_fusion", .fusion),
  ("interaction_bonus_applied", .fusion),
  ("tier_stable", .tiering),
  ("tier_escalated", .tiering),
  ("tier_de_escalated", .tiering)]

/-- `RULE_STAGE[rule] ?? "Unattributed"`. -/
def stageOfRule (rule : String) : PipelineStage :=
  match property ruleStage rule with
  | .own stage => stage
  | .inherited => .inherited rule
  | .undefined => .unattributed

structure StageRules where
  stage : PipelineStage
  rules : List String
deriving DecidableEq, Repr

/-- The body of the loop; `none` where the map has no bucket. -/
def pushStageRule (buckets : PipelineStage → Option (List String)) (rule : String) :
    PipelineStage → Option (List String) :=
  let stage := stageOfRule rule
  let bucket := (buckets stage).getD []
  Function.update buckets stage (some (bucket ++ [rule]))

def groupRulesByStage (rulesFired : List String) : List StageRules :=
  let buckets := rulesFired.foldl pushStageRule fun _ => none
  (pipelineStageOrder.filter fun stage => (buckets stage).isSome).map fun stage =>
    ⟨stage, (buckets stage).getD []⟩

/-- `AGENT_NAME_TO_STAGE`. -/
def agentNameToStage : List (String × PipelineStage) :=
  [("gas_risk", .gasRiskAgent), ("equipment_status", .equipmentStatusAgent),
    ("worker_exposure", .workerExposureAgent), ("permit_intelligence", .permitIntelligenceAgent)]

def agentStage (agentName : String) : PipelineStage :=
  match property agentNameToStage agentName with
  | .own stage => stage
  | .inherited => .inherited agentName
  | .undefined => .unattributed

/-- `groupRulesByStage(justification.rulesFired).find((s) => s.stage === stage)?.rules ?? []`, the rules
of an agent in `buildAgentContributionReason`. -/
def ownRules (agentName : String) (rulesFired : List String) : List String :=
  (((groupRulesByStage rulesFired).find? (·.stage = agentStage agentName)).map
    StageRules.rules).getD []

end Frontend
