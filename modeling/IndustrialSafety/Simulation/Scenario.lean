import IndustrialSafety.Py.Text

/-!
# Scenarios

`src/domain/simulation/scenario.py` and `curves.py`: the events of a scenario, the curve registry and
the structural validation. Loading a YAML file is left out: a run starts from its `Scenario`.
-/

namespace Simulation

open Py

/-- `params`: a `dict` from names to numbers. -/
abbrev Params (R : Type) := List (String × R)

structure SensorEvent (R : Type) where
  name : String
  zoneKey : String
  gasType : String
  simTime : R
  durationMinutes : R
  curve : String
  params : Params R
  sampleIntervalMinutes : R

structure PermitEvent (R : Type) where
  name : String
  zoneKey : String
  simTime : R
  permitType : String
  authorizingOfficerKey : String
  durationMinutes : R

structure Scenario (R : Type) where
  seed : Int
  startTime : String
  sensorEvents : List (SensorEvent R) := []
  permitEvents : List (PermitEvent R) := []

/-! ## Curves -/

section
variable {R : Type} [Field R] [LinearOrder R]

/-- `params[name]`. -/
def Params.get (params : Params R) (name : String) : Result R :=
  match params.lookup name with
  | some x => pure x
  | none => throw (.keyError name)

def exponentialRise (M : Math R) (t : R) (params : Params R) : Result R := do
  let startValue ← params.get "start_value"
  let rate ← params.get "rate"
  pure (startValue * M.exp (rate * t))

def linearRamp (t : R) (params : Params R) : Result R := do
  let startValue ← params.get "start_value"
  let slope ← params.get "slope"
  pure (startValue + slope * t)

def step (t : R) (params : Params R) : Result R := do
  let stepTime ← params.get "step_time"
  if stepTime ≤ t then params.get "step_value" else params.get "baseline"

abbrev CurveFunction (R : Type) := R → Params R → Result R

/-- `CURVE_REGISTRY`, in the order of `sorted`. -/
def curveRegistry (M : Math R) : List (String × CurveFunction R) :=
  [("exponential_rise", exponentialRise M), ("linear_ramp", linearRamp), ("step", step)]

/-- `CURVE_REQUIRED_PARAMS[curve]`. -/
def curveRequiredParams : String → Result (List String)
  | "exponential_rise" => pure ["start_value", "rate"]
  | "linear_ramp" => pure ["start_value", "slope"]
  | "step" => pure ["baseline", "step_value", "step_time"]
  | curve => throw (.keyError curve)

/-! ## Structural validation -/

/-- The first loop: `seenNames` are the names of the events before. -/
def validateNames : List String → List String → Result Unit
  | _, [] => pure ()
  | seenNames, name :: names =>
    if name ∈ seenNames then
      throw (.scenarioValidationError s!"duplicate event name: {strRepr name}")
    else validateNames (name :: seenNames) names

def validateSensorEvent (M : Math R) (event : SensorEvent R) : Result Unit := do
  let name := strRepr event.name
  if event.simTime < 0 then
    throw (.scenarioValidationError s!"event {name}: sim_time must be >= 0")
  if event.durationMinutes ≤ 0 then
    throw (.scenarioValidationError s!"event {name}: duration_minutes must be > 0")
  if event.sampleIntervalMinutes ≤ 0 then
    throw (.scenarioValidationError s!"event {name}: sample_interval_minutes must be > 0")
  if event.curve ∉ (curveRegistry M).map Prod.fst then
    throw (.scenarioValidationError (s!"event {name}: unknown curve type {strRepr event.curve} " ++
      s!"(known: {reprList ((curveRegistry M).map Prod.fst)})"))
  let required ← curveRequiredParams event.curve
  let missing := required.filter (· ∉ event.params.map Prod.fst)
  if missing ≠ [] then
    throw (.scenarioValidationError (s!"event {name}: curve {strRepr event.curve} " ++
      s!"missing params {reprList missing}"))

def validatePermitEvent (event : PermitEvent R) : Result Unit := do
  let name := strRepr event.name
  if event.simTime < 0 then
    throw (.scenarioValidationError s!"event {name}: sim_time must be >= 0")
  if event.durationMinutes ≤ 0 then
    throw (.scenarioValidationError s!"event {name}: duration_minutes must be > 0")

def validateStructure (M : Math R) (scenario : Scenario R) : Result Unit := do
  validateNames [] (scenario.sensorEvents.map SensorEvent.name ++
    scenario.permitEvents.map PermitEvent.name)
  scenario.sensorEvents.forM (validateSensorEvent M)
  scenario.permitEvents.forM validatePermitEvent

end

end Simulation
