import IndustrialSafety.Orchestrator.Tiering

/-!
# Recommendations

`src/knowledge_graph/recommendation_text.py`: the recommendation of each tier and rule.
-/

namespace KnowledgeGraph

inductive Severity
  | critical | high | medium
deriving DecidableEq, Repr

structure RecommendationTemplate where
  id : String
  text : String
  severity : Severity
deriving DecidableEq, Repr

/-- `TIER_BASELINE`: no baseline for a normal tier. -/
def tierBaseline : Tier → Option RecommendationTemplate
  | .critical => some {
    id := "tier_critical"
    text := "Escalate immediately: evacuate non-essential personnel from this " ++
      "zone and notify the shift supervisor."
    severity := .critical }
  | .elevated => some {
    id := "tier_elevated"
    text := "Increase monitoring frequency and confirm response readiness for this zone."
    severity := .high }
  | .watch => some {
    id := "tier_watch"
    text := "Log this zone for closer observation; no immediate action required yet."
    severity := .medium }
  | .normal => none

/-- The values of `RULE_RECOMMENDATIONS`; each has its rule as its id. -/
def ruleRecommendations : List RecommendationTemplate := [
  { id := "unauthorized_presence"
    text := "Verify headcount and remove unauthorized personnel operating " ++
      "without an active permit."
    severity := .high },
  { id := "permit_status_escalated"
    text := "Review the active permit in this zone for suspension or revocation."
    severity := .high },
  { id := "common_cause_grouped_degradation_count"
    text := "Inspect equipment flagged under common-cause degradation before " ++
      "continuing operations."
    severity := .medium },
  { id := "stale_data_fail_safe"
    text := "Sensor data is stale for this zone - dispatch a technician to confirm sensor health."
    severity := .medium },
  { id := "missing_data_fail_safe"
    text := "No sensor data is reaching this zone - treat as an instrumentation " ++
      "failure until confirmed otherwise."
    severity := .high },
  { id := "missing_location_fail_safe"
    text := "Worker location data is unavailable for this zone - confirm headcount manually."
    severity := .medium },
  { id := "missing_equipment_context"
    text := "Equipment telemetry is unavailable for this zone - confirm " ++
      "equipment status manually."
    severity := .medium },
  { id := "agent_unavailable_using_last_known"
    text := "One or more risk agents used stale/last-known data this tick - " ++
      "confirm all upstream systems are reporting."
    severity := .medium },
  { id := "interaction_bonus_applied"
    text := "Multiple independent risk factors are compounding in this zone " ++
      "(SIMOPS) - review concurrent activity."
    severity := .high }]

/-- `RULE_RECOMMENDATIONS.get(rule)`. -/
def ruleRecommendation (rule : String) : Option RecommendationTemplate :=
  ruleRecommendations.find? (·.id = rule)

/-- One rule, with the ids seen so far: its recommendation unless its id was seen. -/
def addRecommendation (state : List RecommendationTemplate × Finset String) (rule : String) :
    List RecommendationTemplate × Finset String :=
  match ruleRecommendation rule with
  | none => state
  | some template =>
    if template.id ∈ state.2 then state else (state.1 ++ [template], insert template.id state.2)

/-- The baseline of the tier first, then one entry for each recognized rule in the order it fired. -/
def recommendationTemplatesFor (tier : Tier) (rulesFired : List String) :
    List RecommendationTemplate :=
  let templates := (tierBaseline tier).toList
  (rulesFired.foldl addRecommendation
    (templates, (templates.map RecommendationTemplate.id).toFinset)).1

end KnowledgeGraph
