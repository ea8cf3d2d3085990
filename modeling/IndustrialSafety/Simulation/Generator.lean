import IndustrialSafety.Simulation.Scenario
import Mathlib.Data.List.Sort

/-!
# The event generator

`src/domain/simulation/generator.py`: the readings and permits of a scenario. `SimClock` is its
current time, which goes on past the year 9999 (there `advance` raises `OverflowError`).
-/

namespace Simulation

open Py

structure GeneratedReading (R Uuid : Type) where
  readingId : Uuid
  zoneKey : String
  gasType : String
  value : R
  timestamp : DateTime

structure GeneratedPermit (Uuid : Type) where
  permitId : Uuid
  zoneKey : String
  permitType : String
  authorizingOfficerKey : String
  issuedAt : DateTime
  expiresAt : DateTime

variable {R Uuid : Type} [Field R] [LinearOrder R] [FloorRing R]

/-- The loop over an event's ticks: `count` of them from `tickIndex` on, at the clock's `now`. -/
def sampleEvent (T : Text R Uuid) (seed : Int) (event : SensorEvent R) (curveFn : CurveFunction R) :
    Nat → Nat → DateTime → Result (List (GeneratedReading R Uuid))
  | 0, _, _ => pure []
  | count + 1, tickIndex, now => do
    let t := (tickIndex : R) * event.sampleIntervalMinutes
    let value ← curveFn t event.params
    let reading := {
      readingId := T.resolveId s!"reading:{seed}:{event.name}:{tickIndex}"
      zoneKey := event.zoneKey
      gasType := event.gasType
      value
      timestamp := now }
    let rest ← sampleEvent T seed event curveFn count (tickIndex + 1)
      (now.addMinutes event.sampleIntervalMinutes)
    pure (reading :: rest)

def generateEventReadings (M : Math R) (T : Text R Uuid) (seed : Int) (start : DateTime)
    (event : SensorEvent R) : Result (List (GeneratedReading R Uuid)) := do
  let now := start.addMinutes event.simTime
  let curveFn ← match (curveRegistry M).lookup event.curve with
    | some curveFn => pure curveFn
    | none => throw (.keyError event.curve)
  let steps ← div event.durationMinutes event.sampleIntervalMinutes
  let numSteps := ⌊steps⌋
  sampleEvent T seed event curveFn (numSteps + 1).toNat 0 now

def generateSensorReadings (M : Math R) (T : Text R Uuid) (scenario : Scenario R) :
    Result (List (GeneratedReading R Uuid)) := do
  let start ← T.datetime scenario.startTime
  let events := scenario.sensorEvents.insertionSort fun a b => a.simTime ≤ b.simTime
  let readings ← events.mapM (generateEventReadings M T scenario.seed start)
  pure readings.flatten

def generatePermit (T : Text R Uuid) (seed : Int) (start : DateTime) (event : PermitEvent R) :
    Result (GeneratedPermit Uuid) := do
  let issuedAt ← (start.addMinutes event.simTime).checked
  let expiresAt ← (issuedAt.addMinutes event.durationMinutes).checked
  pure {
    permitId := T.resolveId s!"permit:{seed}:{event.name}"
    zoneKey := event.zoneKey
    permitType := event.permitType
    authorizingOfficerKey := event.authorizingOfficerKey
    issuedAt
    expiresAt }

def generatePermits (T : Text R Uuid) (scenario : Scenario R) :
    Result (List (GeneratedPermit Uuid)) := do
  let start ← T.datetime scenario.startTime
  scenario.permitEvents.mapM (generatePermit T scenario.seed start)

end Simulation
