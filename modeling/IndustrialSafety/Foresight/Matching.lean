import IndustrialSafety.Foresight.Trajectory

/-!
# Trajectory matching

`src/foresight/matching.py`, and the matches of `generate_operational_foresight`
(`src/foresight/service.py`). The distance of two steps is a parameter.
-/

namespace Foresight

open Py Historical

structure TrajectoryMatch (R Uuid : Type) where
  trajectory : Trajectory R Uuid
  anchorIndex : Nat
  similarity : R
  windowLength : Nat

variable {R Uuid : Type}

/-- The last `n` steps. -/
def Trajectory.window (trajectory : Trajectory R Uuid) (n : Int) : List (TrajectoryStep R Uuid) :=
  if n ≤ 0 then [] else trajectory.steps.drop (trajectory.steps.length - n.toNat)

variable [Field R] [LinearOrder R]

/-- The mean distance over the aligned window, and its length. -/
def windowedDistance (distance : FeatureVector R → FeatureVector R → R)
    (currentWindow candidateSteps : List (TrajectoryStep R Uuid)) (anchorIndex : Nat) : R × Nat :=
  let n := min currentWindow.length (anchorIndex + 1)
  if n = 0 then (0, 0)
  else
    let alignedCurrent := currentWindow.drop (currentWindow.length - n)
    let alignedCandidate := (candidateSteps.take (anchorIndex + 1)).drop (anchorIndex + 1 - n)
    let distances := alignedCurrent.zipWith
      (fun c h => distance c.featureVector h.featureVector) alignedCandidate
    (distances.sum / distances.length, distances.length)

/-- The loop over the anchors: the first one with the least mean distance, that distance and the
length of its window. -/
def bestAnchor (distance : FeatureVector R → FeatureVector R → R)
    (currentWindow candidateSteps : List (TrajectoryStep R Uuid)) : Option (Nat × R × Nat) :=
  (List.range candidateSteps.length).foldl (fun best anchorIndex =>
    let (meanDistance, nCompared) :=
      windowedDistance distance currentWindow candidateSteps anchorIndex
    if nCompared = 0 then best
    else if best.all fun b => meanDistance < b.2.1 then some (anchorIndex, meanDistance, nCompared)
    else best) none

variable [DecidableEq Uuid]

/-- The match of a candidate, none for the current trajectory itself. -/
def matchTrajectory (distance : FeatureVector R → FeatureVector R → R)
    (current : Trajectory R Uuid) (currentWindow : List (TrajectoryStep R Uuid))
    (trajectory : Trajectory R Uuid) : Result (Option (TrajectoryMatch R Uuid)) :=
  if trajectory.scenarioKey = current.scenarioKey ∧ trajectory.zoneId = current.zoneId then pure none
  else
    match bestAnchor distance currentWindow trajectory.steps with
    | none => pure none
    | some (anchorIndex, bestDistance, windowLength) => do
      let similarity ← div 1 (1 + bestDistance)
      pure (some { trajectory, anchorIndex, similarity, windowLength })

def matchTrajectories (distance : FeatureVector R → FeatureVector R → R)
    (current : Trajectory R Uuid) (candidates : List (Trajectory R Uuid)) (windowSize topN : Int) :
    Result (List (TrajectoryMatch R Uuid)) :=
  let currentWindow := current.window windowSize
  if currentWindow = [] then pure []
  else do
    let found ← candidates.mapM (matchTrajectory distance current currentWindow)
    let matched := (found.filterMap id).insertionSort fun a b => b.similarity ≤ a.similarity
    pure (sliceTo topN matched)

/-! ## The matches of a zone's recent assessments -/

/-- The steps of the recent assessments, each with the one before. -/
def currentSteps : Option (RiskAssessment R Uuid) → List (RiskAssessment R Uuid) →
    List (TrajectoryStep R Uuid)
  | _, [] => []
  | previous, assessment :: assessments =>
    let featureVector := buildFeatureVector assessment previous
    { timestamp := assessment.timestamp
      featureVector
      risk := featureVector.compoundRiskScore
      tier := assessment.tier
      triggeredAgents := featureVector.triggeredAgents
      assessmentId := assessment.assessmentId } :: currentSteps (some assessment) assessments

omit [LinearOrder R] in
/-- `_build_candidate_trajectories`. -/
def buildCandidateTrajectories (index : Index R Uuid) (deckKey : Option String) :
    Service Exc (IndexCache R Uuid) (List (Trajectory R Uuid)) := do
  let trajectories ← (searchedDecks deckKey).mapM (buildTrajectoriesForDeck index)
  pure trajectories.flatten

/-- The `matches` of `generate_operational_foresight`. What it derives from them raises nothing. -/
def operationalMatches (sqrt : R → R) (index : Index R Uuid) (zoneId : Uuid) (scenarioKey : String)
    (recentAssessments : List (RiskAssessment R Uuid)) (windowSize : Int) (deckKey : Option String)
    (topN : Int) : Service Exc (IndexCache R Uuid) (List (TrajectoryMatch R Uuid)) := do
  if recentAssessments = [] then
    throw (.valueError
      "generate_operational_foresight requires at least one persisted assessment")
  let current : Trajectory R Uuid :=
    { scenarioKey, incident := none, zoneId, steps := currentSteps none recentAssessments }
  let candidates ← buildCandidateTrajectories index deckKey
  matchTrajectories (weightedEuclideanDistance sqrt) current candidates windowSize topN

end Foresight
