import IndustrialSafety.Services.ScenarioBuilder
import Mathlib.Algebra.Order.Floor.Ring

/-!
# The client's validation of a scenario draft

`frontend/src/lib/scenarioBuilderValidation.ts`, and the context `ScenarioBuilderPage.tsx` derives from
the plant. A `Record` is the list of its own properties; a lookup in an object literal also finds what
`Object.prototype` has.
-/

namespace Frontend

open Py Simulation

/-! ## Drafts -/

structure SensorEventDraft (R : Type) where
  name : String
  zoneId : String
  gasType : String
  simTime : R
  durationMinutes : R
  sampleIntervalMinutes : R
  curve : String
  params : Params R

structure PermitEventDraft (R : Type) where
  name : String
  zoneId : String
  simTime : R
  permitType : String
  authorizingOfficerId : String
  durationMinutes : R

structure ScenarioDefinitionDraft (R : Type) where
  seed : Int
  startTime : String
  sensorEvents : List (SensorEventDraft R)
  permitEvents : List (PermitEventDraft R)

structure ScenarioValidationContext where
  knownZoneIds : Finset String
  knownWorkerIds : Finset String
  unassignedWorkerIds : Finset String
  zoneGasTypes : String → Option (Finset String)

/-! ## Object properties -/

/-- The names every object has. -/
def objectPrototype : List String :=
  ["constructor", "__defineGetter__", "__defineSetter__", "hasOwnProperty", "__lookupGetter__",
    "__lookupSetter__", "isPrototypeOf", "propertyIsEnumerable", "toString", "valueOf", "__proto__",
    "toLocaleString"]

/-- `object[name]`. -/
inductive Property (α : Type)
  | own (value : α)
  | inherited
  | undefined

def property {α : Type} (object : List (String × α)) (name : String) : Property α :=
  match object.lookup name with
  | some value => .own value
  | none => if name ∈ objectPrototype then .inherited else .undefined

/-- `name in object`. -/
def hasProperty {α : Type} (object : List (String × α)) (name : String) : Bool :=
  name ∈ object.map Prod.fst ∨ name ∈ objectPrototype

/-! ## Curves -/

/-- `CURVE_REQUIRED_PARAMS`. -/
def curveRequiredParams : List (String × List String) :=
  [("linear_ramp", ["start_value", "slope"]),
    ("exponential_rise", ["start_value", "rate"]),
    ("step", ["baseline", "step_value", "step_time"])]

variable {R : Type} [Field R] [LinearOrder R]

/-- `none` is `NaN`. -/
def evaluateCurve (M : Math R) (curve : String) (t : R) (params : Params R) : Option R :=
  match curve with
  | "linear_ramp" => do
    let startValue ← params.lookup "start_value"
    let slope ← params.lookup "slope"
    pure (startValue + slope * t)
  | "exponential_rise" => do
    let startValue ← params.lookup "start_value"
    let rate ← params.lookup "rate"
    pure (startValue * M.exp (rate * t))
  | "step" =>
    if (params.lookup "step_time").any (· ≤ t) then params.lookup "step_value"
    else params.lookup "baseline"
  | _ => none

/-! ## Validation -/

/-- How the messages write a number: `x.toFixed(3)`, and `x` in a template. -/
structure NumberText (R : Type) where
  toFixed3 : R → String
  str : R → String

variable [FloorRing R]

/-- The loop over the samples: the first negative one is reported. -/
def negativeConcentration (M : Math R) (N : NumberText R) (event : SensorEventDraft R) :
    Option String :=
  let steps := ⌊event.durationMinutes / event.sampleIntervalMinutes⌋
  (List.range (steps + 1).toNat).findSome? fun i : Nat => do
    let t := (i : R) * event.sampleIntervalMinutes
    let value ← evaluateCurve M event.curve t event.params
    if value < 0 then
      some (s!"event \"{event.name}\": produces a negative concentration ({N.toFixed3 value}) " ++
        s!"at t={N.str t}")
    else none

def curveErrors (M : Math R) (N : NumberText R) (event : SensorEventDraft R) : Result (List String) :=
  match property curveRequiredParams event.curve with
  | .undefined =>
    pure [s!"event \"{event.name}\": unknown curve type \"{event.curve}\" " ++
      "(known: exponential_rise, linear_ramp, step)"]
  | .inherited => throw (.typeError "requiredParams.filter is not a function")
  | .own requiredParams =>
    let missing := requiredParams.filter fun p => !hasProperty event.params p
    if missing ≠ [] then
      pure [s!"event \"{event.name}\": curve \"{event.curve}\" missing params " ++
        ", ".intercalate missing]
    else if 0 < event.durationMinutes ∧ 0 < event.sampleIntervalMinutes then
      pure (negativeConcentration M N event).toList
    else pure []

def zoneErrors (ctx : ScenarioValidationContext) (event : SensorEventDraft R) : List String :=
  if event.zoneId ∉ ctx.knownZoneIds then [s!"event \"{event.name}\": unknown zone \"{event.zoneId}\""]
  else if !(ctx.zoneGasTypes event.zoneId).any fun gasTypes => event.gasType ∈ gasTypes then
    [s!"event \"{event.name}\": no sensor for zone=\"{event.zoneId}\" gas_type=\"{event.gasType}\""]
  else []

def validateSensorEvent (M : Math R) (N : NumberText R) (ctx : ScenarioValidationContext)
    (event : SensorEventDraft R) : Result (List String) := do
  let simTime := if event.simTime < 0 then [s!"event \"{event.name}\": sim_time must be >= 0"] else []
  let duration := if event.durationMinutes ≤ 0 then
    [s!"event \"{event.name}\": duration_minutes must be > 0"] else []
  let interval := if event.sampleIntervalMinutes ≤ 0 then
    [s!"event \"{event.name}\": sample_interval_minutes must be > 0"] else []
  let curve ← curveErrors M N event
  pure (simTime ++ duration ++ interval ++ curve ++ zoneErrors ctx event)

omit [FloorRing R] in
def validatePermitEvent (ctx : ScenarioValidationContext) (event : PermitEventDraft R) :
    List String :=
  (if event.simTime < 0 then [s!"event \"{event.name}\": sim_time must be >= 0"] else []) ++
  (if event.durationMinutes ≤ 0 then [s!"event \"{event.name}\": duration_minutes must be > 0"]
    else []) ++
  (if event.zoneId ∉ ctx.knownZoneIds then
    [s!"event \"{event.name}\": unknown zone \"{event.zoneId}\""] else []) ++
  (if event.authorizingOfficerId ∉ ctx.knownWorkerIds then
    [s!"event \"{event.name}\": unknown authorizing officer \"{event.authorizingOfficerId}\""]
  else if event.authorizingOfficerId ∈ ctx.unassignedWorkerIds then
    [s!"event \"{event.name}\": authorizing officer \"{event.authorizingOfficerId}\" " ++
      "is not currently assigned to any zone"]
  else [])

/-- The loop over the names: `seenNames` are those of the events before. -/
def duplicateNames : List String → List String → List String
  | _, [] => []
  | seenNames, name :: names =>
    (if name ∈ seenNames then [s!"duplicate event name: \"{name}\""] else []) ++
      duplicateNames (name :: seenNames) names

def validateScenarioDraft (M : Math R) (N : NumberText R) (draft : ScenarioDefinitionDraft R)
    (ctx : ScenarioValidationContext) : Result (List String) := do
  let names := duplicateNames [] (draft.sensorEvents.map SensorEventDraft.name ++
    draft.permitEvents.map PermitEventDraft.name)
  let sensorEvents ← draft.sensorEvents.mapM (validateSensorEvent M N ctx)
  pure (names ++ sensorEvents.flatten ++ draft.permitEvents.flatMap (validatePermitEvent ctx))

/-! ## The page -/

variable {Uuid : Type} [DecidableEq Uuid]

omit [Field R] [LinearOrder R] [FloorRing R] in
/-- `validationContext`. -/
def validationContext (T : Text R Uuid) (db : Db R Uuid) : ScenarioValidationContext where
  knownZoneIds := (db.zones.rows.map fun z => T.uuidStr z.zoneId).toFinset
  knownWorkerIds := (db.workers.rows.map fun w => T.uuidStr w.workerId).toFinset
  unassignedWorkerIds :=
    ((db.workers.rows.filter (·.currentZoneId.isNone)).map fun w => T.uuidStr w.workerId).toFinset
  zoneGasTypes zoneId := (db.zones.rows.find? fun z => T.uuidStr z.zoneId = zoneId).map fun z =>
    ((db.sensors.rows.filter (·.zoneId = z.zoneId)).map Sensor.gasType).toFinset

/-! ## The request -/

omit [Field R] [LinearOrder R] [FloorRing R] [DecidableEq Uuid] in
/-- The spec the server reads from a draft's event. -/
def SensorEventDraft.spec (T : Text R Uuid) (event : SensorEventDraft R) :
    Option (ScenarioBuilder.SensorEventSpec R Uuid) := do
  let zoneId ← T.uuidOfStr event.zoneId
  pure { name := event.name, zoneId, gasType := event.gasType, simTime := event.simTime,
         durationMinutes := event.durationMinutes, curve := event.curve, params := event.params,
         sampleIntervalMinutes := event.sampleIntervalMinutes }

omit [Field R] [LinearOrder R] [FloorRing R] [DecidableEq Uuid] in
def PermitEventDraft.spec (T : Text R Uuid) (event : PermitEventDraft R) :
    Option (ScenarioBuilder.PermitEventSpec R Uuid) := do
  let zoneId ← T.uuidOfStr event.zoneId
  let authorizingOfficerId ← T.uuidOfStr event.authorizingOfficerId
  pure { name := event.name, zoneId, simTime := event.simTime, permitType := event.permitType,
         authorizingOfficerId, durationMinutes := event.durationMinutes }

omit [Field R] [LinearOrder R] [FloorRing R] [DecidableEq Uuid] in
/-- `build_scenario` on the draft's specs, from the start time the server read. -/
def ScenarioDefinitionDraft.build (T : Text R Uuid) (startTime : DateTime)
    (draft : ScenarioDefinitionDraft R) : Option (Scenario R) := do
  let sensorEvents ← draft.sensorEvents.mapM (SensorEventDraft.spec T)
  let permitEvents ← draft.permitEvents.mapM (PermitEventDraft.spec T)
  pure (ScenarioBuilder.buildScenario T draft.seed startTime sensorEvents permitEvents)

end Frontend
