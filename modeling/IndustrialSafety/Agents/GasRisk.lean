import IndustrialSafety.Agents.Base

/-!
# Gas Risk

`src/domain/agents/gas_risk.py`: a saturating score of the latest reading, decayed towards the
elevated floor as the reading ages; confidence is the minimum of three sub-scores.
-/

namespace GasRisk

open Py

variable {R : Type} [Field R] [LinearOrder R]

structure GasRiskConfig (R : Type) where
  formulaVersion : Int
  steepnessK : R
  decayLambda : R
  staleAfterMinutes : R
  minReadingsForRegression : Nat
  calibrationStaleDays : R
  defaultElevatedFloor : R
  missingDataConfidence : R
  uncalibratedConfidenceFloor : R
  insufficientHistoryConfidenceFloor : R

def GasRiskConfig.default (M : Math R) : GasRiskConfig R where
  formulaVersion := 1
  steepnessK := 2 * M.ln2
  decayLambda := M.ln2 / 15
  staleAfterMinutes := 15
  minReadingsForRegression := 3
  calibrationStaleDays := 30
  defaultElevatedFloor := 40
  missingDataConfidence := 0.1
  uncalibratedConfidenceFloor := 0.3
  insufficientHistoryConfidenceFloor := 0.5

def calculateRisk (M : Math R) (readings : List (GasReading R)) (alarmThreshold elevatedFloor : R)
    (simTime : Instant) (config : GasRiskConfig R) : Result R :=
  match readings.getLast? with
  | none => pure elevatedFloor
  | some latest => do
    let ratio ← div latest.value alarmThreshold
    let rawRisk := M.saturate 100 config.steepnessK ratio
    let deltaMinutes := minutes (simTime - latest.timestamp)
    if deltaMinutes ≤ 0 then pure rawRisk
    else pure (relax elevatedFloor rawRisk (M.decay config.decayLambda deltaMinutes))

/-- The calibration sub-score. -/
def calibrationScore (lastCalibratedAt : Option Instant) (simTime : Instant)
    (config : GasRiskConfig R) : R :=
  match lastCalibratedAt with
  | none => config.uncalibratedConfidenceFloor
  | some t =>
    if totalSeconds (simTime - t) / 86400 ≤ config.calibrationStaleDays then 1
    else config.uncalibratedConfidenceFloor

def calculateConfidence (M : Math R) (readings : List (GasReading R))
    (lastCalibratedAt : Option Instant) (simTime : Instant) (config : GasRiskConfig R) : R :=
  match readings.getLast? with
  | none => config.missingDataConfidence
  | some latest =>
    let deltaMinutes : R := max (minutes (simTime - latest.timestamp)) 0
    let freshnessScore := M.decay config.decayLambda deltaMinutes
    let historyScore : R :=
      if config.minReadingsForRegression ≤ readings.length then 1
      else config.insufficientHistoryConfidenceFloor
    min (min freshnessScore (calibrationScore lastCalibratedAt simTime config)) historyScore

/-- The regression slope's numerator and denominator. -/
def regressionSums (xs ys : List R) : R × R :=
  let meanX := xs.sum / (xs.length : R)
  let meanY := ys.sum / (ys.length : R)
  (((xs.zip ys).map fun p => (p.1 - meanX) * (p.2 - meanY)).sum,
    (xs.map fun x => (x - meanX) ^ 2).sum)

/-- The regression trend extrapolated to the alarm threshold. With no reading at all the code
indexes an empty list, unless the configured minimum is positive. -/
def calculateTimeToThreshold (readings : List (GasReading R)) (alarmThreshold : R)
    (config : GasRiskConfig R) : Result (Option R) :=
  if readings.length < config.minReadingsForRegression then pure none
  else
    match readings.head?, readings.getLast? with
    | some first, some latest =>
      let sums := regressionSums (readings.map fun r => minutes (r.timestamp - first.timestamp))
        (readings.map GasReading.value)
      if sums.2 = 0 then pure none
      else
        let slope := sums.1 / sums.2
        if slope ≤ 0 then pure none
        else if alarmThreshold ≤ latest.value then pure (some 0)
        else pure (some ((alarmThreshold - latest.value) / slope))
    | _, _ => throw .indexError

def buildJustification (readings : List (GasReading R)) (alarmThreshold elevatedFloor : R)
    (lastCalibratedAt : Option Instant) (simTime : Instant) (timeToThreshold : Option R)
    (config : GasRiskConfig R) : Result (Justification R) :=
  let evidence := Evidence.gasRisk config.formulaVersion alarmThreshold elevatedFloor
    readings.length timeToThreshold lastCalibratedAt
  match readings.getLast? with
  | none => pure ⟨["missing_data_fail_safe"], evidence none⟩
  | some latest => do
    let deltaMinutes := minutes (simTime - latest.timestamp)
    let pctOfThreshold ← div latest.value alarmThreshold
    let freshness :=
      if config.staleAfterMinutes < deltaMinutes then "stale_data_fail_safe"
      else "saturating_threshold_function"
    let history :=
      if readings.length < config.minReadingsForRegression then ["insufficient_history"] else []
    pure ⟨freshness :: history, evidence (some (latest.value, pctOfThreshold, deltaMinutes))⟩

/-- `_extract_required_float`. -/
def extractRequiredFloat (value : Option R) (key : String) : Result R :=
  match value with
  | some x => pure x
  | none => throw (.keyError key)

/-- `GasRiskAgent.evaluate`. -/
def evaluate {Uuid : Type} (M : Math R) (config : GasRiskConfig R) (input : AgentInput R Uuid) :
    Result (AgentResult R) := do
  let readings := input.context.readings.getD []
  let alarmThreshold ← extractRequiredFloat input.context.alarmThreshold "alarm_threshold"
  let lastCalibratedAt := input.context.lastCalibratedAt
  let elevatedFloor := input.context.elevatedFloorOverride.getD config.defaultElevatedFloor
  let risk ← calculateRisk M readings alarmThreshold elevatedFloor input.simTime config
  let confidence := calculateConfidence M readings lastCalibratedAt input.simTime config
  let timeToThreshold ← calculateTimeToThreshold readings alarmThreshold config
  let justification ← buildJustification readings alarmThreshold elevatedFloor lastCalibratedAt
    input.simTime timeToThreshold config
  pure { agentName := "gas_risk", risk, confidence, justification, computedAt := input.simTime }

/-- `GasRiskAgent()`. -/
def agent {Uuid : Type} (M : Math R) : Agent R Uuid :=
  ⟨"gas_risk", evaluate M (GasRiskConfig.default M)⟩

end GasRisk
