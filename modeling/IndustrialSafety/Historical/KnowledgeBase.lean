import IndustrialSafety.Historical.Decks
import IndustrialSafety.Historical.Similarity
import IndustrialSafety.Lib.Memo
import IndustrialSafety.Services.Replay
import IndustrialSafety.Services.ScenarioCatalog

/-!
# The historical knowledge base

`src/historical/knowledge_base.py`: the index of a deck, built once and kept in `_INDEX_CACHE`, and
the search for similar incidents. A search asks for an index through `index`: the cached one
(`buildIndexForDeck`) or one built at every call. The decks' incidents are pairwise different, so
comparing incidents is comparing objects. A timestamp read from the database is in UTC.
-/

namespace Historical

open Py ScenarioCatalog

/-- The modules and files a process works with: numbers, texts and the scenario files. -/
structure Env (R Uuid : Type) [Field R] [LinearOrder R] where
  math : Math R
  text : Text R Uuid
  /-- `format(x, ".1f")`. -/
  floatStr1 : R → String
  /-- `math.sqrt`. -/
  sqrt : R → R
  files : List (ScenarioFile R)

structure IndexedTick (R Uuid : Type) where
  incident : HistoricalIncident
  zoneId : Uuid
  assessment : RiskAssessment R Uuid
  featureVector : FeatureVector R

structure IncidentMatch (R Uuid : Type) where
  scenarioKey : String
  incidentName : String
  date : Instant
  zoneId : Uuid
  similarity : R
  outcomeTier : Tier
  rootCause : String
  businessImpact : String
  operationalImpact : String
  safetyImpact : String
  matchingFeatures : List String
  differingFeatures : List String
  lessonsLearned : List Lesson
  evidenceSource : String

/-- `_INDEX_CACHE`. -/
abbrev IndexCache (R Uuid : Type) := Memo.Cache String (List (IndexedTick R Uuid))

section
variable {R Uuid : Type} [Field R] [LinearOrder R]

/-- The ticks of one zone, each with the one before. -/
def indexTimeline (incident : HistoricalIncident) (zoneId : Uuid) :
    Option (RiskAssessment R Uuid) → List (RiskAssessment R Uuid) → List (IndexedTick R Uuid)
  | _, [] => []
  | previous, assessment :: assessments =>
    ⟨incident, zoneId, assessment, buildFeatureVector assessment previous⟩ ::
      indexTimeline incident zoneId (some assessment) assessments

variable [FloorRing R] [DecidableEq Uuid] (env : Env R Uuid) (db : Db R Uuid)

/-- The ticks of one incident; an incident that is not in the catalog has none. The windows of the catalog
are taken to be away from the ends of `datetime`. -/
def indexIncident (incident : HistoricalIncident) : Result (List (IndexedTick R Uuid)) := do
  match ← getScenarioSummary env.math env.text env.files incident.scenarioKey with
  | none => pure []
  | some summary =>
    let replayData := Replay.replayOf env.text env.floatStr1 db summary.zoneIds
      summary.startTime.instant summary.endTime.instant
    pure (replayData.zoneTimelines.flatMap fun zoneTimeline =>
      indexTimeline incident zoneTimeline.zoneId none zoneTimeline.assessments)

/-- `_build_index_for_deck` on a miss. -/
def freshIndex (deck : HistoricalDeck) : Result (List (IndexedTick R Uuid)) := do
  let indexed ← deck.incidents.mapM (indexIncident env db)
  pure indexed.flatten

def buildIndexForDeck (deck : HistoricalDeck) :
    Service Exc (IndexCache R Uuid) (List (IndexedTick R Uuid)) :=
  Memo.cached deck.key (freshIndex env db deck)

end

/-! ## Similar incidents -/

section
variable {R Uuid : Type} [Field R] [LinearOrder R] [DecidableEq Uuid]

/-- How a search gets the index of a deck. -/
abbrev Index (R Uuid : Type) :=
  HistoricalDeck → Service Exc (IndexCache R Uuid) (List (IndexedTick R Uuid))

variable (index : Index R Uuid)

/-- The worst tier of the zone in the incident, the first of the equally bad. -/
def outcomeTier (incident : HistoricalIncident) (zoneId : Uuid) :
    Service Exc (IndexCache R Uuid) Tier :=
  match historicalDecks.find? (incident ∈ ·.incidents) with
  | none => pure .normal
  | some deck => do
    let indexed ← index deck
    let ticks := indexed.filter fun tick => tick.incident = incident ∧ tick.zoneId = zoneId
    pure (((ticks.argmax fun tick => tick.assessment.tier.rank).map fun tick =>
      tick.assessment.tier).getD .normal)

/-- The ticks of a deck with their similarities, but for the current assessment itself. -/
def scoreDeck (sqrt : R → R) (currentVector : FeatureVector R) (currentId : Uuid)
    (deck : HistoricalDeck) : Service Exc (IndexCache R Uuid) (List (IndexedTick R Uuid × R)) := do
  let indexed ← index deck
  let others := indexed.filter fun tick => tick.assessment.assessmentId ≠ currentId
  others.mapM fun tick => do
    let similarity ← similarityScore sqrt currentVector tick.featureVector
    pure (tick, similarity)

/-- `xs[:n]`. -/
def sliceTo {α : Type} (n : Int) (xs : List α) : List α :=
  if 0 ≤ n then xs.take n.toNat else xs.take (xs.length - n.natAbs)

/-- The decks of a search. -/
def searchedDecks (deckKey : Option String) : List HistoricalDeck :=
  match deckKey with
  | some key => (getDeck key).toList
  | none => historicalDecks

variable [FloorRing R] (env : Env R Uuid)

def incidentMatch (currentVector : FeatureVector R) (tick : IndexedTick R Uuid) (similarity : R) :
    Service Exc (IndexCache R Uuid) (IncidentMatch R Uuid) := do
  let incident := tick.incident
  let summary ← getScenarioSummary env.math env.text env.files incident.scenarioKey
  let (matching, differing) := matchingAndDifferingFeatures currentVector tick.featureVector 10
  let outcomeTier ← outcomeTier index incident tick.zoneId
  pure {
    scenarioKey := incident.scenarioKey
    incidentName := (summary.map ScenarioSummary.title).getD incident.scenarioKey
    date := (summary.map (·.startTime.instant)).getD tick.assessment.timestamp
    zoneId := tick.zoneId
    similarity
    outcomeTier
    rootCause := incident.rootCause
    businessImpact := incident.businessImpact
    operationalImpact := incident.operationalImpact
    safetyImpact := incident.safetyImpact
    matchingFeatures := matching
    differingFeatures := differing
    lessonsLearned := lessonsForRules tick.assessment.justification.rulesFired
    evidenceSource := s!"{incident.scenarioKey} @ " ++
      s!"{env.text.isoformat ⟨tick.assessment.timestamp, 0⟩} " ++
      s!"(assessment {env.text.uuidStr tick.assessment.assessmentId})" }

def findSimilarIncidents (current : RiskAssessment R Uuid)
    (previous : Option (RiskAssessment R Uuid)) (topN : Int) (deckKey : Option String) :
    Service Exc (IndexCache R Uuid) (List (IncidentMatch R Uuid)) := do
  let currentVector := buildFeatureVector current previous
  let scored ← (searchedDecks deckKey).mapM
    (scoreDeck index env.sqrt currentVector current.assessmentId)
  let ranked := scored.flatten.insertionSort fun a b => b.2 ≤ a.2
  (sliceTo topN ranked).mapM fun (tick, similarity) =>
    incidentMatch index env currentVector tick similarity

end

end Historical
