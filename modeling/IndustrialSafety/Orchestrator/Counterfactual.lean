import IndustrialSafety.Py.Text

/-!
# The counterfactual comparator

`src/domain/orchestrator/counterfactual.py`: the naive alarm, which trips when one sensor alone is
at or above its own threshold.
-/

namespace Counterfactual

open Py

variable {R Uuid : Type} [Field R] [LinearOrder R]

structure CounterfactualReading (R : Type) where
  sensorId : String
  value : R
  alarmThreshold : R

structure CounterfactualResult (R Uuid : Type) where
  zoneId : Uuid
  simTime : Instant
  alert : Bool
  triggeredSensors : List String
  highestRatio : Option R := none

/-- `_validate_reading`. -/
def validateReading (T : Text R Uuid) (reading : CounterfactualReading R) : Result Unit := do
  if reading.alarmThreshold ≤ 0 then
    throw (.valueError (s!"sensor {strRepr reading.sensorId} has non-positive alarm_threshold: " ++
      T.floatStr reading.alarmThreshold))
  if reading.value < 0 then
    throw (.valueError
      s!"sensor {strRepr reading.sensorId} has negative value: {T.floatStr reading.value}")

def calculateSensorAlert (reading : CounterfactualReading R) : Bool :=
  reading.alarmThreshold ≤ reading.value

/-- No division is by zero: `evaluate` has validated the readings. -/
def calculateHighestRatio (readings : List (CounterfactualReading R)) : Option R :=
  (readings.map fun r => r.value / r.alarmThreshold).max?

def evaluate (T : Text R Uuid) (zoneId : Uuid) (simTime : Instant)
    (readings : List (CounterfactualReading R)) : Result (CounterfactualResult R Uuid) := do
  readings.forM (validateReading T)
  let triggeredSensors := (readings.filter calculateSensorAlert).map CounterfactualReading.sensorId
  pure { zoneId, simTime, alert := !triggeredSensors.isEmpty, triggeredSensors,
         highestRatio := calculateHighestRatio readings }

end Counterfactual
