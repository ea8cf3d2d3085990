import IndustrialSafety.Historical.KnowledgeBase
import IndustrialSafety.Lib.Group

/-!
# Trajectories

`src/foresight/trajectory.py`: the indexed ticks of a deck as one ordered sequence for each incident
and zone.
-/

namespace Foresight

open Py Historical

structure TrajectoryStep (R Uuid : Type) where
  timestamp : Instant
  featureVector : FeatureVector R
  risk : R
  tier : Tier
  triggeredAgents : List String
  assessmentId : Uuid

structure Trajectory (R Uuid : Type) where
  scenarioKey : String
  incident : Option HistoricalIncident
  zoneId : Uuid
  steps : List (TrajectoryStep R Uuid)

variable {R Uuid : Type} [DecidableEq Uuid]

omit [DecidableEq Uuid] in
def stepFromTick (tick : IndexedTick R Uuid) : TrajectoryStep R Uuid where
  timestamp := tick.assessment.timestamp
  featureVector := tick.featureVector
  risk := tick.featureVector.compoundRiskScore
  tier := tick.assessment.tier
  triggeredAgents := tick.featureVector.triggeredAgents
  assessmentId := tick.assessment.assessmentId

/-- A trajectory for each incident and zone, in the order of their first ticks. -/
def buildTrajectoriesForDeck (index : Index R Uuid) (deck : HistoricalDeck) :
    Service Exc (IndexCache R Uuid) (List (Trajectory R Uuid)) := do
  let indexed ← index deck
  let grouped := Group.group
    (indexed.map fun tick => ((tick.incident.scenarioKey, tick.zoneId), tick))
  pure (grouped.map fun ((scenarioKey, zoneId), ticks) =>
    let ticksSorted := ticks.insertionSort fun a b =>
      a.assessment.timestamp ≤ b.assessment.timestamp
    { scenarioKey
      incident := ticksSorted.head?.map IndexedTick.incident
      zoneId
      steps := ticksSorted.map stepFromTick })

end Foresight
