import IndustrialSafety.Foresight.Forecast

/-!
# The confidence of a forecast

`src/foresight/confidence.py`: four factors, and the least of them.
-/

namespace Foresight

open Py

structure ForesightConfidence (R : Type) where
  historicalAgreement : R
  dataCompleteness : R
  trajectorySimilarity : R
  replayCoverage : R
  overall : R

variable {R Uuid : Type} [Zero R] [Add R] [Sub R] [Neg R] [Div R] [NatCast R] [LT R] [DecidableLT R]
  [BEq R]

/-- The agreement of a point's evidence: one less the standard deviation of its observed risks, as a
fraction of a hundred. -/
def pointAgreement [One R] [Pow R ℕ] (sqrt : R → R) (point : ForecastPoint R Uuid) : Result R := do
  let values := point.evidence.map ForecastEvidence.observedRisk
  let mean ← div (Py.sum values) (values.length : R)
  let variance ← div (Py.sum (values.map fun value => (value - mean) ^ 2)) (values.length : R)
  let stdev := sqrt variance
  pure (maxOf 0 (1 - stdev / 100))

/-- A mean, zero of nothing. -/
def meanOrZero (values : List R) : Result R :=
  if values = [] then pure 0 else div (Py.sum values) (values.length : R)

/-- `replay_coverage`: the part of the matches and horizons that is cited. -/
def replayCoverage (matched : List (TrajectoryMatch R Uuid))
    (forecastPoints : List (ForecastPoint R Uuid)) : Result R :=
  let totalPossible := matched.length * forecastPoints.length
  let totalCovered : Nat := (forecastPoints.map (·.evidence.length)).sum
  if 0 < totalPossible then div (totalCovered : R) totalPossible else pure 0

/-- `data_completeness`: the part of the requested window that there is. -/
def dataCompleteness [One R] [IntCast R] (currentWindowLength requestedWindowSize : Int) : Result R :=
  if 0 < requestedWindowSize then do
    let fraction ← div (currentWindowLength : R) requestedWindowSize
    pure (minOf 1 fraction)
  else pure 0

def computeConfidence [One R] [Pow R ℕ] [IntCast R] (sqrt : R → R)
    (currentWindowLength requestedWindowSize : Int)
    (matched : List (TrajectoryMatch R Uuid)) (forecastPoints : List (ForecastPoint R Uuid)) :
    Result (ForesightConfidence R) := do
  let dataCompleteness ← dataCompleteness currentWindowLength requestedWindowSize
  let trajectorySimilarity ← meanOrZero (matched.map TrajectoryMatch.similarity)
  let agreements ← (forecastPoints.filter (2 ≤ ·.evidence.length)).mapM (pointAgreement sqrt)
  let historicalAgreement ← meanOrZero agreements
  let replayCoverage ← replayCoverage matched forecastPoints
  let overall := minOf (minOf (minOf dataCompleteness trajectorySimilarity) historicalAgreement)
    replayCoverage
  pure { historicalAgreement, dataCompleteness, trajectorySimilarity, replayCoverage, overall }

end Foresight
