import IndustrialSafety.Simulation.Generator
import Mathlib.Data.String.Basic
import Mathlib.Order.MinMax

/-!
# The scenario catalog

`src/services/scenario_catalog.py`: a summary of each authored scenario. The files under
`scenarios/` are a parameter, in the order of their paths; a scenario is loaded as it is.
-/

namespace ScenarioCatalog

open Py Simulation

/-- A file of `scenarios/`: its stem, the two keys the loader ignores, and the scenario. -/
structure ScenarioFile (R : Type) where
  stem : String
  title : Option String := none
  description : Option String := none
  scenario : Scenario R

structure ScenarioSummary (Uuid : Type) where
  key : String
  title : String
  description : String
  startTime : DateTime
  endTime : DateTime
  zoneIds : List Uuid
  seed : Int

variable {R Uuid : Type} [Field R] [LinearOrder R] [FloorRing R]

/-- The permits count only when there is no sensor event. -/
def endTime (scenario : Scenario R) (start : DateTime) : DateTime :=
  let sensorOffsets := scenario.sensorEvents.map fun e => e.simTime + e.durationMinutes
  let offsets := if sensorOffsets = [] then
    scenario.permitEvents.map fun e => e.simTime + e.durationMinutes else sensorOffsets
  start.addMinutes (offsets.max?.getD 0)

omit [Field R] [LinearOrder R] [FloorRing R] in
/-- The ids of the zones the events name, each zone key once, in the order of their texts. -/
def zoneIds (T : Text R Uuid) (scenario : Scenario R) : List Uuid :=
  let keys := scenario.sensorEvents.map SensorEvent.zoneKey ++
    scenario.permitEvents.map PermitEvent.zoneKey
  (keys.dedup.map T.resolveId).insertionSort fun a b => T.uuidStr a ≤ T.uuidStr b

def summarize (M : Math R) (T : Text R Uuid) (file : ScenarioFile R) :
    Result (ScenarioSummary Uuid) := do
  validateStructure M file.scenario
  let start ← T.datetime file.scenario.startTime
  pure {
    key := file.stem
    title := file.title.getD file.stem
    description := file.description.getD ""
    startTime := start
    endTime := endTime file.scenario start
    zoneIds := zoneIds T file.scenario
    seed := file.scenario.seed }

def loadCatalog (M : Math R) (T : Text R Uuid) (files : List (ScenarioFile R)) :
    Result (List (ScenarioSummary Uuid)) := do
  let summaries ← files.mapM (summarize M T)
  pure (summaries.insertionSort fun a b => a.startTime.instant ≤ b.startTime.instant)

def getScenarioSummary (M : Math R) (T : Text R Uuid) (files : List (ScenarioFile R))
    (key : String) : Result (Option (ScenarioSummary Uuid)) := do
  let summaries ← loadCatalog M T files
  pure (summaries.find? (·.key = key))

end ScenarioCatalog
