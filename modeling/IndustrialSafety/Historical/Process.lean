import IndustrialSafety.Foresight.Trajectory
import IndustrialSafety.Historical.Analytics
import IndustrialSafety.Services.RiskPipeline

/-!
# The process as a state machine

One process answers queries over the historical decks and runs ticks, in any order: its state is the
database and the index cache. A call that raises leaves what it had committed or cached before.
-/

namespace Historical

open Py Scheduler Tiering

inductive Query (R Uuid : Type)
  | findSimilarIncidents (current : RiskAssessment R Uuid)
      (previous : Option (RiskAssessment R Uuid)) (topN : Int) (deckKey : Option String)
  | buildTrajectoriesForDeck (deck : HistoricalDeck)
  | computeAnalytics (deckKey : Option String)

inductive Answer (R Uuid : Type)
  | incidents (incidents : List (IncidentMatch R Uuid))
  | trajectories (trajectories : List (Foresight.Trajectory R Uuid))
  | analytics (analytics : CrossScenarioAnalytics R)

inductive Action (R Uuid : Type)
  | runZoneTick (zoneId : Uuid) (gasType : String) (simTime : DateTime) (tickId : Nat)
      (cache : AgentCache R) (tierState : TierState R)
  | query (q : Query R Uuid)

structure Process (R Uuid : Type) where
  db : Db R Uuid
  indexCache : IndexCache R Uuid

variable {R Uuid : Type} [Field R] [LinearOrder R] [IsStrictOrderedRing R] [FloorRing R]
  [DecidableEq Uuid]

omit [IsStrictOrderedRing R] in
def Query.call (env : Env R Uuid) (index : Index R Uuid) :
    Query R Uuid → Service Exc (IndexCache R Uuid) (Answer R Uuid)
  | .findSimilarIncidents current previous topN deckKey => do
    pure (.incidents (← Historical.findSimilarIncidents index env current previous topN deckKey))
  | .buildTrajectoriesForDeck deck => do
    pure (.trajectories (← Foresight.buildTrajectoriesForDeck index deck))
  | .computeAnalytics deckKey => do
    pure (.analytics (← Historical.computeAnalytics index deckKey))

def Process.next (env : Env R Uuid) (s : Process R Uuid) : Action R Uuid → Process R Uuid
  | .runZoneTick zoneId gasType simTime tickId cache tierState => { s with
      db := (RiskPipeline.runZoneTick env.math env.text zoneId gasType simTime tickId cache
        tierState s.db).2 }
  | .query q => { s with
      indexCache := (q.call env (buildIndexForDeck env s.db) s.indexCache).2 }

omit [IsStrictOrderedRing R] in
/-- The answer of a query, or its exception. -/
def Process.answer (env : Env R Uuid) (s : Process R Uuid) (q : Query R Uuid) :
    Result (Answer R Uuid) :=
  (q.call env (buildIndexForDeck env s.db) s.indexCache).1

omit [IsStrictOrderedRing R] in
/-- The answer when every index is built from the database at that moment. -/
def freshAnswer (env : Env R Uuid) (db : Db R Uuid) (q : Query R Uuid) : Result (Answer R Uuid) :=
  (q.call env (fun deck => liftM (freshIndex env db deck)) []).1

end Historical
