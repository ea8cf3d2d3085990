import IndustrialSafety.Foresight.Forecast

/-!
# The progression of an incident

`src/foresight/progression.py`: the next stages, the resolution and the early warning that the matches
and their forecast give. The current tier is that of a persisted assessment, so one of `RISK_TIERS`.
-/

namespace Foresight

open Py

/-- `tier.upper()`. -/
def upper : Tier → String
  | .normal => "NORMAL"
  | .watch => "WATCH"
  | .elevated => "ELEVATED"
  | .critical => "CRITICAL"

/-- `format(x, ".0f")`. -/
def fixed0 {R : Type} [Field R] [LinearOrder R] [FloorRing R] (x : R) : String :=
  if x < 0 then "-" ++ toString (roundHalfEven (-x)) else toString (roundHalfEven x)

structure ProgressionStage where
  label : String
  tier : Option Tier
  supportingMatches : Nat
  totalMatches : Nat
  evidence : String

structure IncidentProgression where
  currentStage : ProgressionStage
  likelyNextStage : ProgressionStage
  likelyFollowingStage : ProgressionStage
  expectedResolution : ProgressionStage

structure EarlyWarningSignal where
  category : String
  why : String
  supportingMatches : Nat
  totalMatches : Nat

variable {R Uuid : Type}

/-- `_stage_from_forecast_point`. -/
def stageFromForecastPoint (point : Option (ForecastPoint R Uuid)) (totalMatches : Nat) :
    ProgressionStage :=
  match point.bind fun p => p.projectedTier.map (p, ·) with
  | none => {
      label := "Unavailable"
      tier := none
      supportingMatches := 0
      totalMatches
      evidence := "No matched historical incident has data at this horizon." }
  | some (p, projectedTier) =>
    let supporting := p.evidence.length
    { label := upper projectedTier
      tier := some projectedTier
      supportingMatches := supporting
      totalMatches
      evidence := s!"{supporting} of {totalMatches} matched incident(s) support " ++
        s!"{upper projectedTier} within {p.horizonMinutes} minutes." }

variable [Field R]

/-- The minutes from a match's anchor to the first normal step after it. -/
def minutesToResolution (m : TrajectoryMatch R Uuid) : Result (Option R) := do
  let anchor ← anchorStep m
  pure (((m.trajectory.steps.drop (m.anchorIndex + 1)).find? (·.tier = .normal)).map
    fun step => minutes (step.timestamp - anchor.timestamp))

variable [LinearOrder R]

/-- `_expected_resolution`. -/
def expectedResolution [FloorRing R] (matched : List (TrajectoryMatch R Uuid)) :
    Result ProgressionStage := do
  let found ← matched.mapM minutesToResolution
  let minutesToResolution := found.filterMap id
  let total := matched.length
  if minutesToResolution = [] then
    pure {
      label := "Unavailable"
      tier := none
      supportingMatches := 0
      totalMatches := total
      evidence := "No matched incident returned to NORMAL within its own persisted replay window." }
  else do
    let averageMinutes ← div minutesToResolution.sum (minutesToResolution.length : R)
    let resolvedCount := minutesToResolution.length
    pure {
      label := s!"Return to NORMAL (typically ~{fixed0 averageMinutes} min)"
      tier := some .normal
      supportingMatches := resolvedCount
      totalMatches := total
      evidence := s!"{resolvedCount} of {total} matched incident(s) returned to NORMAL, " ++
        s!"averaging {fixed0 averageMinutes} minutes after the matched point." }

def deriveProgression [FloorRing R] (currentTier : Tier) (matched : List (TrajectoryMatch R Uuid))
    (forecastPoints : List (ForecastPoint R Uuid)) : Result IncidentProgression := do
  let total := matched.length
  let currentStage : ProgressionStage := {
    label := upper currentTier
    tier := some currentTier
    supportingMatches := total
    totalMatches := total
    evidence := "Current persisted tier for this zone - not a projection." }
  let expectedResolution ← expectedResolution matched
  pure {
    currentStage
    likelyNextStage := stageFromForecastPoint forecastPoints[0]? total
    likelyFollowingStage := stageFromForecastPoint forecastPoints[1]? total
    expectedResolution }

/-- The items of a point that reached the critical tier. -/
def criticalItems (point : ForecastPoint R Uuid) : List (ForecastEvidence R Uuid) :=
  point.evidence.filter (·.observedTier = .critical)

/-- At least half of the similarity of a point's evidence reached the critical tier. -/
def criticalMajority (point : ForecastPoint R Uuid) : Prop :=
  point.evidence ≠ [] ∧
    let totalWeight := (point.evidence.map ForecastEvidence.similarity).sum
    let criticalWeight := ((criticalItems point).map ForecastEvidence.similarity).sum
    0 < totalWeight ∧ 1 / 2 ≤ criticalWeight / totalWeight

instance (point : ForecastPoint R Uuid) : Decidable (criticalMajority point) :=
  inferInstanceAs (Decidable (_ ∧ _ ∧ _))

def deriveEarlyWarning (currentTier : Tier) (matched : List (TrajectoryMatch R Uuid))
    (forecastPoints : List (ForecastPoint R Uuid)) : EarlyWarningSignal :=
  let total := matched.length
  match forecastPoints.find? (criticalMajority ·) with
  | some point =>
    let count := (criticalItems point).length
    { category := "Potential Shutdown"
      why := s!"{count} of {point.evidence.length} matched incident(s) reached CRITICAL " ++
        s!"within {point.horizonMinutes} minutes."
      supportingMatches := count
      totalMatches := total }
  | none =>
    match forecastPoints.findSome? fun p => p.projectedTier.map (p, ·) with
    | none => {
        category := "Potential Stabilization"
        why := "No matched incident had data to project a trend from."
        supportingMatches := 0
        totalMatches := total }
    | some (nearest, projectedTier) =>
      let supporting := nearest.evidence.length
      let (category, verb) :=
        if currentTier.rank < projectedTier.rank then ("Potential Escalation", "rising")
        else if projectedTier.rank < currentTier.rank then ("Potential Recovery", "falling")
        else ("Potential Stabilization", "holding")
      { category
        why := s!"{supporting} of {total} matched incident(s) show tier {verb} " ++
          s!"to {upper projectedTier} within {nearest.horizonMinutes} minutes."
        supportingMatches := supporting
        totalMatches := total }

end Foresight
