import IndustrialSafety.Api.Server
import IndustrialSafety.Foresight.Service
import IndustrialSafety.Historical.Analytics
import IndustrialSafety.Lib.Yields

/-!
# Historical intelligence and foresight

`src/api/routers/historical.py` and `foresight.py`: the read-only endpoints over the historical decks.
They share the index cache of the process with each other, and the database with everything that writes
to it (`Server`). The lower and upper bounds of a request's numbers are FastAPI's.
-/

namespace Api

open Py Historical Foresight

/-- `_MAX_TOP_N`, in both routers. -/
def maxTopN : Int := 20

/-- `_MAX_WINDOW_SIZE`. -/
def maxWindowSize : Int := 20

structure MatchesResponse (R Uuid : Type) where
  zoneId : Uuid
  timestamp : Instant
  incidents : List (IncidentMatch R Uuid)

structure MatchSummaryResponse (R Uuid : Type) where
  scenarioKey : String
  incidentName : String
  zoneId : Uuid
  anchorTimestamp : Instant
  similarity : R
  windowLength : Nat

/-- The summaries of the matches, in place of the matches, and the rest of the result as it is. -/
structure ForesightResponse (R Uuid : Type) where
  summaries : List (MatchSummaryResponse R Uuid)
  result : ForesightResult R Uuid

inductive Lookup (Uuid : Type)
  | incidentMatches (zoneId : Uuid) (timestamp : DateTime) (topN : Int) (deckKey : Option String)
  | analytics (deckKey : Option String)
  | forecast (zoneId : Uuid) (timestamp : DateTime) (scenarioKey : String) (windowSize topN : Int)
      (deckKey : Option String)

inductive LookupResponse (R Uuid : Type)
  | incidentMatches (response : MatchesResponse R Uuid)
  | analytics (response : CrossScenarioAnalytics R)
  | forecast (response : ForesightResponse R Uuid)

/-- `Query(ge=1, le=bound)`. -/
def inBounds (bound n : Int) : Except Failure Unit :=
  if 1 ≤ n ∧ n ≤ bound then pure ()
  else throw (.apiError ⟨422, "VALIDATION_ERROR", "Request validation failed"⟩)

variable {R Uuid : Type} [DecidableEq Uuid]

/-- The assessment that a request is about. -/
def persistedAssessment (T : Text R Uuid) (db : Db R Uuid) (zoneId : Uuid) (timestamp : DateTime) :
    Except Failure (RiskAssessment R Uuid) :=
  match RiskAssessmentRepository.getByZoneAndTimestamp db zoneId timestamp.instant with
  | none => throw (.apiError ⟨404, "ASSESSMENT_NOT_FOUND",
      s!"No persisted assessment for zone {T.uuidStr zoneId} at {T.isoformat timestamp}"⟩)
  | some current => pure current

variable [Field R] [LinearOrder R] [FloorRing R]

section
variable (env : Env R Uuid) (db : Db R Uuid)

/-- `GET /historical/matches`. -/
def getMatches (zoneId : Uuid) (timestamp : DateTime) (topN : Int) (deckKey : Option String) :
    Service Failure (IndexCache R Uuid) (MatchesResponse R Uuid) := do
  inBounds maxTopN topN
  let current ← persistedAssessment env.text db zoneId timestamp
  let previousCandidates := RiskAssessmentRepository.historyByZone db zoneId 1
    (some timestamp.instant) none
  let incidents ← Service.mapError .unexpected (findSimilarIncidents (buildIndexForDeck env db) env
    current previousCandidates.head? topN deckKey)
  pure { zoneId, timestamp := timestamp.instant, incidents }

/-- `GET /historical/analytics`. -/
def getAnalytics (deckKey : Option String) :
    Service Failure (IndexCache R Uuid) (CrossScenarioAnalytics R) :=
  Service.mapError .unexpected (computeAnalytics (buildIndexForDeck env db) deckKey)

def matchSummary (m : TrajectoryMatch R Uuid) : Result (MatchSummaryResponse R Uuid) := do
  let summary ← ScenarioCatalog.getScenarioSummary env.math env.text env.files m.trajectory.scenarioKey
  let anchor ← anchorStep m
  pure {
    scenarioKey := m.trajectory.scenarioKey
    incidentName := (summary.map ScenarioCatalog.ScenarioSummary.title).getD m.trajectory.scenarioKey
    zoneId := m.trajectory.zoneId
    anchorTimestamp := anchor.timestamp
    similarity := m.similarity
    windowLength := m.windowLength }

/-- The trailing window of a zone, oldest first. -/
def recentAssessments (current : RiskAssessment R Uuid) (zoneId : Uuid) (timestamp : DateTime)
    (windowSize : Int) : List (RiskAssessment R Uuid) :=
  (RiskAssessmentRepository.historyByZone db zoneId (windowSize - 1).toNat (some timestamp.instant)
    none).reverse ++ [current]

/-- `GET /foresight/forecast`. -/
def getForecast (zoneId : Uuid) (timestamp : DateTime) (scenarioKey : String)
    (windowSize topN : Int) (deckKey : Option String) :
    Service Failure (IndexCache R Uuid) (ForesightResponse R Uuid) := do
  inBounds maxWindowSize windowSize
  inBounds maxTopN topN
  let current ← persistedAssessment env.text db zoneId timestamp
  let result ← Service.mapError .unexpected (generateOperationalForesight env.sqrt
    (buildIndexForDeck env db) zoneId scenarioKey
    (recentAssessments db current zoneId timestamp windowSize) windowSize deckKey topN)
  let summaries ← Service.mapError .unexpected (liftM (result.matched.mapM (matchSummary env)))
  pure { summaries, result }

def Lookup.call : Lookup Uuid → Service Failure (IndexCache R Uuid) (LookupResponse R Uuid)
  | .incidentMatches zoneId timestamp topN deckKey => do
    pure (.incidentMatches (← getMatches env db zoneId timestamp topN deckKey))
  | .analytics deckKey => do
    pure (.analytics (← getAnalytics env db deckKey))
  | .forecast zoneId timestamp scenarioKey windowSize topN deckKey => do
    pure (.forecast (← getForecast env db zoneId timestamp scenarioKey windowSize topN deckKey))

end

/-! ## Runs -/

/-- A process with its index cache, `_INDEX_CACHE`. -/
structure Server (R Uuid : Type) where
  state : State R Uuid
  indexCache : IndexCache R Uuid := []

inductive Call (R Uuid : Type)
  | action (a : Action R Uuid)
  | lookup (q : Lookup Uuid)

def Server.db (s : Server R Uuid) : Db R Uuid := s.state.runtime.db

def Server.answer (env : Env R Uuid) (s : Server R Uuid) (q : Lookup Uuid) :
    Except Failure (LookupResponse R Uuid) :=
  (q.call env s.db s.indexCache).1

variable [IsStrictOrderedRing R]

def Server.next (env : Env R Uuid) (s : Server R Uuid) : Call R Uuid → Server R Uuid
  | .action a => { s with state := s.state.next env.math env.text a }
  | .lookup q => { s with indexCache := (q.call env s.db s.indexCache).2 }

def Server.run (env : Env R Uuid) (s : Server R Uuid) (calls : List (Call R Uuid)) :
    Server R Uuid :=
  calls.foldl (Server.next env) s

end Api
