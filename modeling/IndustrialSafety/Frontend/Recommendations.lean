import IndustrialSafety.Frontend.ScenarioBuilderValidation
import IndustrialSafety.KnowledgeGraph.RecommendationText

/-!
# The client's recommendations

`frontend/src/lib/recommendations.ts`: the recommendations of a tier and of the rules that fired. Both
tables are object literals, so a lookup also finds what `Object.prototype` has.
-/

namespace Frontend

open KnowledgeGraph (Severity)

structure Recommendation where
  id : String
  text : String
  severity : Severity
deriving DecidableEq, Repr

/-- `TIER_BASELINE[tier]`. -/
def tierBaseline : Tier → Option Recommendation
  | .critical => some {
    id := "tier_critical"
    text := "Escalate immediately: evacuate non-essential personnel from this " ++
      "zone and notify the shift supervisor."
    severity := .critical }
  | .elevated => some {
    id := "tier_elevated"
    text := "Increase monitoring frequency and confirm response readiness for this zone."
    severity := .high }
  | .watch => some {
    id := "tier_watch"
    text := "Log this zone for closer observation; no immediate action required yet."
    severity := .medium }
  | .normal => none

/-- `RULE_RECOMMENDATIONS`. -/
def ruleRecommendations : List (String × Recommendation) := [
  ("unauthorized_presence", {
    id := "unauthorized_presence"
    text := "Verify headcount and remove unauthorized personnel operating " ++
      "without an active permit."
    severity := .high }),
  ("permit_status_escalated", {
    id := "permit_status_escalated"
    text := "Review the active permit in this zone for suspension or revocation."
    severity := .high }),
  ("common_cause_grouped_degradation_count", {
    id := "common_cause_grouped_degradation_count"
    text := "Inspect equipment flagged under common-cause degradation before " ++
      "continuing operations."
    severity := .medium }),
  ("stale_data_fail_safe", {
    id := "stale_data_fail_safe"
    text := "Sensor data is stale for this zone - dispatch a technician to confirm sensor health."
    severity := .medium }),
  ("missing_data_fail_safe", {
    id := "missing_data_fail_safe"
    text := "No sensor data is reaching this zone - treat as an instrumentation " ++
      "failure until confirmed otherwise."
    severity := .high }),
  ("missing_location_fail_safe", {
    id := "missing_location_fail_safe"
    text := "Worker location data is unavailable for this zone - confirm headcount manually."
    severity := .medium }),
  ("missing_equipment_context", {
    id := "missing_equipment_context"
    text := "Equipment telemetry is unavailable for this zone - confirm " ++
      "equipment status manually."
    severity := .medium }),
  ("agent_unavailable_using_last_known", {
    id := "agent_unavailable_using_last_known"
    text := "One or more risk agents used stale/last-known data this tick - " ++
      "confirm all upstream systems are reporting."
    severity := .medium }),
  ("interaction_bonus_applied", {
    id := "interaction_bonus_applied"
    text := "Multiple independent risk factors are compounding in this zone " ++
      "(SIMOPS) - review concurrent activity."
    severity := .high })]

/-- What the returned array holds: a recommendation, or a property of `Object.prototype`, an object
whose `id`, `text` and `severity` are `undefined`. -/
inductive Entry
  | recommendation (r : Recommendation)
  | inherited
deriving DecidableEq, Repr

/-- `r.id`. -/
def Entry.id : Entry → Option String
  | .recommendation r => some r.id
  | .inherited => none

/-- `RULE_RECOMMENDATIONS[rule]`, if it is truthy. -/
def lookupRule (rule : String) : Option Entry :=
  match property ruleRecommendations rule with
  | .own r => some (.recommendation r)
  | .inherited => some .inherited
  | .undefined => none

/-- The body of the loop over the rules. -/
def pushRule (recommendations : List Entry) (rule : String) : List Entry :=
  match lookupRule rule with
  | none => recommendations
  | some recommendation =>
    if recommendations.any (·.id = recommendation.id) then recommendations
    else recommendations ++ [recommendation]

/-- Of the justification only `rulesFired` is read; `none` is `null`. -/
def deriveRecommendations (tier : Tier) (justification : Option (List String)) : List Entry :=
  let recommendations := ((tierBaseline tier).map Entry.recommendation).toList
  match justification with
  | none => recommendations
  | some rulesFired => rulesFired.foldl pushRule recommendations

end Frontend
