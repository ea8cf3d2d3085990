import IndustrialSafety.Foresight.Confidence
import IndustrialSafety.Foresight.Progression

/-!
# Operational foresight

`src/foresight/service.py`: a zone's recent assessments matched against the decks, and what the matches
give. The incidents of the decks are pairwise different, so comparing incidents is comparing objects.
-/

namespace Foresight

open Py Historical

structure DeckContribution where
  deckKey : String
  deckName : String
  matchedIncidentCount : Nat

structure ForesightResult (R Uuid : Type) where
  zoneId : Uuid
  timestamp : Instant
  currentRiskScore : R
  currentTier : Tier
  windowSize : Int
  currentWindowLength : Nat
  matched : List (TrajectoryMatch R Uuid)
  forecast : List (ForecastPoint R Uuid)
  confidence : ForesightConfidence R
  progression : IncidentProgression
  earlyWarning : EarlyWarningSignal
  deckContributions : List DeckContribution

/-- The `name` of a deck. -/
def deckName (deck : HistoricalDeck) : String :=
  (([("demo-plant-incidents", "Demo Plant Incidents"), ("oil-refinery", "Oil Refinery"),
    ("steel", "Steel"), ("chemical", "Chemical"), ("mining", "Mining"),
    ("power", "Power Generation"), ("lng", "LNG")] : List (String × String)).lookup deck.key).getD ""

variable {R Uuid : Type}

/-- The first of the decks that a match is from. -/
def contributingDeck (decks : List HistoricalDeck) (m : TrajectoryMatch R Uuid) :
    Option HistoricalDeck :=
  m.trajectory.incident.bind fun incident => decks.find? (incident ∈ ·.incidents)

/-- `_deck_contributions`: `matched_by_deck` keeps the order of its first insertions. -/
def deckContributions (matched : List (TrajectoryMatch R Uuid)) (deckKey : Option String) :
    List DeckContribution :=
  let matchedByDeck := Group.group (matched.filterMap fun m =>
    (contributingDeck (searchedDecks deckKey) m).map fun deck => (deck, m.trajectory.scenarioKey))
  matchedByDeck.map fun (deck, scenarioKeys) =>
    ⟨deck.key, deckName deck, scenarioKeys.toFinset.card⟩

variable [Field R] [LinearOrder R] [FloorRing R] [DecidableEq Uuid]

def generateOperationalForesight (sqrt : R → R) (index : Index R Uuid) (zoneId : Uuid)
    (scenarioKey : String) (recentAssessments : List (RiskAssessment R Uuid)) (windowSize : Int)
    (deckKey : Option String) (topN : Int) :
    Service Exc (IndexCache R Uuid) (ForesightResult R Uuid) := do
  let matched ← operationalMatches sqrt index zoneId scenarioKey recentAssessments windowSize deckKey
    topN
  let current : Trajectory R Uuid :=
    { scenarioKey, incident := none, zoneId, steps := currentSteps none recentAssessments }
  let forecastPoints ← generateForecast matched horizonsMinutes
  let currentWindowLength := (current.window windowSize).length
  let confidence ← computeConfidence sqrt currentWindowLength windowSize matched forecastPoints
  match recentAssessments.getLast? with
  | none => throw .indexError
  | some now =>
    let progression ← deriveProgression now.tier matched forecastPoints
    pure {
      zoneId
      timestamp := now.timestamp
      currentRiskScore := now.compoundRiskScore
      currentTier := now.tier
      windowSize
      currentWindowLength
      matched
      forecast := forecastPoints
      confidence
      progression
      earlyWarning := deriveEarlyWarning now.tier matched forecastPoints
      deckContributions := deckContributions matched deckKey }

end Foresight
