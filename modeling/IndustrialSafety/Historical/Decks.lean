import Mathlib.Data.List.Basic

/-!
# Historical decks and lessons

`src/historical/decks.py` and `lessons.py`: the incidents of each deck, and the guidance text of
each rule. Names and descriptions of decks, which no calculation reads, are left out.
-/

namespace Historical

structure HistoricalIncident where
  scenarioKey : String
  rootCause : String
  businessImpact : String
  operationalImpact : String
  safetyImpact : String
deriving DecidableEq

structure HistoricalDeck where
  key : String
  incidents : List HistoricalIncident
deriving DecidableEq

def historicalDecks : List HistoricalDeck := [
  { key := "demo-plant-incidents"
    incidents := [
      { scenarioKey := "demo_vizag_clairton"
        rootCause :=
          "A hot work permit was issued in the Tank Farm while CO pressure began rising in " ++
          "the Compressor House - the platform\x27s flagship demonstration scenario, " ++
          "exercising permit issuance alongside a genuine gas escalation on the same " ++
          "simulated plant."
        businessImpact :=
          "Reference scenario - the platform\x27s own golden-path regression test."
        operationalImpact :=
          "Concurrent permit activity and gas escalation across two zones."
        safetyImpact :=
          "Demonstrates the full pipeline from sensor rise through tier escalation." },
      { scenarioKey := "scenario_critical_gas_leak"
        rootCause :=
          "A sudden, sustained CO leak in the Compressor House climbed to roughly 3x the " ++
          "sensor\x27s own alarm threshold and held there, deliberately severe enough to walk " ++
          "the full WATCH -> ELEVATED -> CRITICAL ladder past Tiering\x27s dwell-time gate."
        businessImpact :=
          "Zone-level critical escalation - the kind of event that would halt operations in " ++
          "that zone."
        operationalImpact :=
          "Sustained single-cause gas escalation, no concurrent permit conflict."
        safetyImpact :=
          "Reached CRITICAL tier; naive single-sensor baseline would also have alerted here." },
      { scenarioKey := "scenario_simops_conflict"
        rootCause :=
          "A slow, gradual CH4 rise in the Tank Farm coincided with a hot work permit issued " ++
          "partway through - the SIMOPS/interaction-bonus case Fusion\x27s compounding math " ++
          "exists for, where two moderate signals combine into a much larger compound score " ++
          "than either alone."
        businessImpact :=
          "Illustrates a legacy single-sensor alarm system\x27s blind spot in a real " ++
          "compounding scenario."
        operationalImpact :=
          "Concurrent permit + gradual gas rise - a genuine SIMOPS conflict."
        safetyImpact :=
          "Compound engine escalates while a naive baseline stays silent - the exact gap this " ++
          "platform exists to close." }] },
  { key := "oil-refinery", incidents := [] },
  { key := "steel", incidents := [] },
  { key := "chemical", incidents := [] },
  { key := "mining", incidents := [] },
  { key := "power", incidents := [] },
  { key := "lng", incidents := [] }]

def getDeck (key : String) : Option HistoricalDeck := historicalDecks.find? (·.key = key)

/-! ## Lessons -/

structure Lesson where
  rule : String
  lesson : String
deriving DecidableEq

/-- `_RULE_LESSONS`. -/
def ruleLessons : List (String × String) := [
  ("missing_data_fail_safe",
    "A sensor reading was missing this tick and the engine substituted a conservative " ++
    "fail-safe value rather than ignoring the gap. Treat the missing feed itself as a " ++
    "maintenance signal, independent of whatever risk score the fallback produced."),
  ("stale_data_fail_safe",
    "A sensor reading had gone stale and the engine decayed toward a conservative value " ++
    "rather than trusting an old reading indefinitely. A stale feed for this long is worth " ++
    "investigating on its own, even if the decayed risk score looks unremarkable."),
  ("missing_equipment_context",
    "Equipment inventory context was unavailable this tick. The engine did not assume " ++
    "equipment was healthy by default - review why the inventory feed was unavailable."),
  ("common_cause_grouped_degradation_count",
    "Multiple equipment items degraded together rather than independently. Investigate the " ++
    "shared root cause (power, common utility, maintenance batch) rather than treating each " ++
    "failure as isolated - simultaneous failures compound faster than the same failures " ++
    "spread over time."),
  ("missing_location_fail_safe",
    "Worker location data was unavailable this tick, and the engine used a conservative " ++
    "fail-safe headcount rather than assuming the zone was empty. Confirm the location feed " ++
    "before relying on headcount alone for evacuation planning."),
  ("unauthorized_presence",
    "Workers were present in a zone without an active, matching permit. Review access-control " ++
    "and permit-issuance timing so presence and authorization are never out of sync in this " ++
    "zone."),
  ("permit_status_escalated",
    "An already-issued permit\x27s risk escalated after issuance as zone conditions changed. " ++
    "Permits should be revisited when conditions materially change, not only checked once at " ++
    "issuance."),
  ("interaction_bonus_applied",
    "Multiple agents were concurrently elevated, and Fusion\x27s interaction bonus compounded " ++
    "the combined risk faster than any single factor would suggest. Treat simultaneous " ++
    "elevated signals as a SIMOPS-style conflict requiring an immediate cross-check between " ++
    "the involved work streams, not as independent alarms to triage one at a time."),
  ("tier_escalated",
    "Operational status crossed a threshold and held past the hysteresis dwell requirement, " ++
    "meaning this is a confirmed escalation, not a single noisy reading. Respond accordingly " ++
    "rather than waiting for further confirmation."),
  ("tier_de_escalated",
    "Operational status fell and held past the hysteresis dwell requirement, confirming a " ++
    "sustained improvement rather than one calm reading. Safe to stand down monitoring " ++
    "frequency once this rule has fired, not before."),
  ("agent_unavailable_using_last_known",
    "An agent\x27s output was unavailable this tick and the Scheduler substituted its decayed " ++
    "last-known value rather than excluding it from Fusion. An agent going unavailable " ++
    "repeatedly is itself worth escalating as a monitoring-infrastructure issue.")]

/-- `_FALLBACK_LESSON`. -/
def fallbackLesson : String :=
  "This rule reflects normal/within-policy operation for this tick - it does not carry a " ++
  "distinct lesson beyond confirming the engine behaved as designed."

def lessonForRule (rule : String) : Lesson := ⟨rule, (ruleLessons.lookup rule).getD fallbackLesson⟩

/-- The first occurrence of each rule counts. -/
def lessonsForRules (rulesFired : List String) : List Lesson :=
  rulesFired.eraseDups.map lessonForRule

end Historical
