import IndustrialSafety.Historical.KnowledgeBase
import IndustrialSafety.Lib.Group

/-!
# Cross-scenario analytics

`src/historical/analytics.py`: counts and averages over the indexed ticks. The two results that are
always `Unavailable` are left out.
-/

namespace Historical

open Py

/-- `_EQUIPMENT_RULES`. -/
def equipmentRules : List String := ["missing_equipment_context", "confirmed_empty_inventory",
  "no_degradation", "common_cause_grouped_degradation_count"]

/-- `_PERMIT_RULES`. -/
def permitRules : List String :=
  ["fail_open_never", "no_open_permits", "permit_status_escalated", "permits_within_policy"]

/-- `_WORKER_RULES`. -/
def workerRules : List String :=
  ["missing_location_fail_safe", "exposure_weighted_headcount", "unauthorized_presence"]

structure RuleFrequency where
  rule : String
  lesson : String
  incidentCount : Nat

structure CrossScenarioAnalytics (R : Type) where
  totalIncidents : Nat
  totalIndexedTicks : Nat
  mostCommonCauses : List RuleFrequency
  mostCommonEquipmentIssues : List RuleFrequency
  mostCommonPermitConflicts : List RuleFrequency
  mostCommonWorkerHazards : List RuleFrequency
  averageResolutionMinutes : Option R

variable {R Uuid : Type} [Field R] [DecidableEq Uuid]

omit [Field R] [DecidableEq Uuid] in
/-- An incident counts once for each rule; the most frequent rules come first. -/
def ruleFrequencies (ticks : List (IndexedTick R Uuid)) (allowedRules : Option (List String)) :
    List RuleFrequency :=
  let fired := ticks.flatMap fun tick =>
    (tick.assessment.justification.rulesFired.filter fun rule =>
      ∀ rules ∈ allowedRules, rule ∈ rules).map fun rule => (rule, tick.incident.scenarioKey)
  let frequencies := (Group.group fired).map fun (rule, incidents) => {
    rule
    lesson := (lessonForRule rule).lesson
    incidentCount := incidents.toFinset.card : RuleFrequency }
  frequencies.insertionSort fun a b => b.incidentCount ≤ a.incidentCount

/-- The loop over a zone's sequence: the minutes of each excursion that returned to normal. -/
def escalationEpisodes : Option Instant → List (Instant × Tier) → List R
  | _, [] => []
  | none, (timestamp, tier) :: rest =>
    escalationEpisodes (if tier ≠ .normal then some timestamp else none) rest
  | some episodeStart, (timestamp, tier) :: rest =>
    if tier = .normal then minutes (timestamp - episodeStart) :: escalationEpisodes none rest
    else escalationEpisodes (some episodeStart) rest

omit [DecidableEq Uuid] in
/-- `_escalation_episode_minutes`. -/
def escalationEpisodeMinutes (assessmentsByZone : List (List (Instant × Tier))) : List R :=
  assessmentsByZone.flatMap (escalationEpisodes none)

def computeAnalytics (index : Index R Uuid) (deckKey : Option String) :
    Service Exc (IndexCache R Uuid) (CrossScenarioAnalytics R) := do
  let decks := historicalDecks.filter fun deck => ∀ key ∈ deckKey, deck.key = key
  let indexed ← decks.mapM index
  let allTicks := indexed.flatten
  let zoneSequences := (Group.group (allTicks.map fun tick =>
    ((tick.incident.scenarioKey, tick.zoneId), (tick.assessment.timestamp, tick.assessment.tier))))
  let resolutionMinutes : List R := escalationEpisodeMinutes (zoneSequences.map fun sequence =>
    sequence.2.insertionSort fun a b => a.1 ≤ b.1)
  pure {
    totalIncidents := (allTicks.map (·.incident.scenarioKey)).toFinset.card
    totalIndexedTicks := allTicks.length
    mostCommonCauses := ruleFrequencies allTicks none
    mostCommonEquipmentIssues := ruleFrequencies allTicks (some equipmentRules)
    mostCommonPermitConflicts := ruleFrequencies allTicks (some permitRules)
    mostCommonWorkerHazards := ruleFrequencies allTicks (some workerRules)
    averageResolutionMinutes := if resolutionMinutes = [] then none
      else some (resolutionMinutes.sum / resolutionMinutes.length) }

end Historical
