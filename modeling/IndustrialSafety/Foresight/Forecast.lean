import IndustrialSafety.Foresight.Matching
import Mathlib.Data.List.MinMax

/-!
# The forecast

`src/foresight/forecast.py`: what the matched trajectories went on to show, at each horizon after the
step that a match is anchored at. The numbers need no more than their operations: these may round.
-/

namespace Foresight

open Py

/-- `HORIZONS_MINUTES`. -/
def horizonsMinutes : List Int := [15, 30, 60]

structure ForecastEvidence (R Uuid : Type) where
  scenarioKey : String
  zoneId : Uuid
  similarity : R
  observedRisk : R
  observedTier : Tier
  observedTimestamp : Instant
  minutesAfterAnchor : R

structure ForecastPoint (R Uuid : Type) where
  horizonMinutes : Int
  projectedRisk : Option R
  projectedTier : Option Tier
  evidence : List (ForecastEvidence R Uuid)
  unavailableReason : Option String

variable {R Uuid : Type}

/-- The step that a match is anchored at. -/
def anchorStep (m : TrajectoryMatch R Uuid) : Result (TrajectoryStep R Uuid) :=
  match m.trajectory.steps[m.anchorIndex]? with
  | some step => pure step
  | none => throw .indexError

/-- `_nearest_step_at_or_after`. -/
def nearestStepAtOrAfter (steps : List (TrajectoryStep R Uuid)) (anchorIndex : Nat)
    (targetTimestamp : Instant) : Option (TrajectoryStep R Uuid) :=
  -- the order of `Int` by its name: the instance that is found for it need not be computable
  @List.argmin _ _ Int.instLinearOrder.toPreorder _ TrajectoryStep.timestamp
    ((steps.drop (anchorIndex + 1)).filter (targetTimestamp ≤ ·.timestamp))

section
variable [NatCast R] [IntCast R] [Div R]

/-- What a match shows at a horizon, if its trajectory reaches it. -/
def citation (horizon : Int) (m : TrajectoryMatch R Uuid) :
    Result (Option (ForecastEvidence R Uuid)) := do
  let anchor ← anchorStep m
  let target := anchor.timestamp + horizon * 60000000
  match nearestStepAtOrAfter m.trajectory.steps m.anchorIndex target with
  | none => pure none
  | some step => pure (some {
      scenarioKey := m.trajectory.scenarioKey
      zoneId := m.trajectory.zoneId
      similarity := m.similarity
      observedRisk := step.risk
      observedTier := step.tier
      observedTimestamp := step.timestamp
      minutesAfterAnchor := minutes (step.timestamp - anchor.timestamp) })

end

/-- `tier_weights`: the total similarity of each tier, in the order in which the tiers are first seen. -/
def tierWeights [Zero R] [Add R] (evidence : List (ForecastEvidence R Uuid)) : List (Tier × R) :=
  (Group.group (evidence.map fun item => (item.observedTier, item.similarity))).map
    fun (tier, similarities) => (tier, similarities.foldl (· + ·) 0)

variable [Zero R] [Add R] [Sub R] [Neg R] [Mul R] [Div R] [NatCast R] [IntCast R]
  [LT R] [DecidableLT R] [BEq R]

/-- The point of a horizon: the weighted mean of the risks, and the tier with the most weight. -/
def forecastPoint (matched : List (TrajectoryMatch R Uuid)) (horizon : Int) :
    Result (ForecastPoint R Uuid) := do
  let found ← matched.mapM (citation horizon)
  let evidence := found.filterMap id
  if evidence = [] then
    pure {
      horizonMinutes := horizon
      projectedRisk := none
      projectedTier := none
      evidence := []
      unavailableReason := some ("No matched historical incident has persisted data reaching " ++
        s!"{horizon} minutes past the matched point.") }
  else do
    let totalWeight := Py.sum (evidence.map ForecastEvidence.similarity)
    let projectedRisk ←
      div (Py.sum (evidence.map fun item => item.observedRisk * item.similarity)) totalWeight
    match maxBy Prod.snd (tierWeights evidence) with
    | none => throw (.valueError "max() iterable argument is empty")
    | some (projectedTier, _) =>
      pure {
        horizonMinutes := horizon
        projectedRisk := some projectedRisk
        projectedTier := some projectedTier
        evidence
        unavailableReason := none }

def generateForecast (matched : List (TrajectoryMatch R Uuid)) (horizons : List Int) :
    Result (List (ForecastPoint R Uuid)) :=
  horizons.mapM (forecastPoint matched)

end Foresight
