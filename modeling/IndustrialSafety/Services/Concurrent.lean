import IndustrialSafety.Lib.Coroutine
import IndustrialSafety.Services.ScenarioBuilder

/-!
# Concurrent executions

`execute_builder_scenario` as a coroutine. The requests of one process share its event loop: a request
gives way at the `await` of `asyncio.gather`, and each agent's task reads the database when it runs. Here
every agent's task, every commit and every read of the comparator is a step of its own, so that these
interleavings are among those of a pool of coroutines.
-/

open Py

variable {R Uuid : Type} [Field R] [LinearOrder R] [DecidableEq Uuid]

namespace Async

open Simulation Scheduler RiskFormula Tiering RiskPipeline ScenarioBuilder

/-! ## A tick -/

/-- A task of `asyncio.gather`: the agent's name and its outcome. -/
def agentTask (T : Text R Uuid) (gasType : String) (zoneId : Uuid) (simTime : Instant) (tickId : Nat)
    (results : Results R) (agent : Agent R Uuid) :
    Async Exc (Db R Uuid) (String × Result (AgentResult R)) :=
  await do
    let db ← get
    match buildContextBuilders T db gasType agent.name with
    | some builder => pure (agent.name, runAgent agent zoneId simTime tickId builder results)
    | none => throw (.keyError agent.name)

def runLevels (M : Math R) (T : Text R Uuid) (gasType : String) (zoneId : Uuid) (simTime : Instant)
    (tickId : Nat) (config : SchedulerConfig R) :
    List (ExecutionLevel R Uuid) → Results R → AgentCache R →
      Async Exc (Db R Uuid) (Results R × AgentCache R)
  | [], results, cache => pure (results, cache)
  | level :: levels, results, cache => do
    let outcomes ← level.agents.mapM (agentTask T gasType zoneId simTime tickId results)
    let (results, cache) ← settle M simTime config outcomes results cache
    runLevels M T gasType zoneId simTime tickId config levels results cache

variable [IsStrictOrderedRing R]

def evaluateTick (M : Math R) (T : Text R Uuid) (zoneId : Uuid) (gasType : String)
    (simTime : DateTime) (tickId : Nat) (previousCache : AgentCache R)
    (previousTierState : TierState R) : Async Exc (Db R Uuid) (Evaluation R Uuid) := do
  let (agentResults, cache) ← runLevels M T gasType zoneId simTime.instant tickId (schedulerConfig M)
    (executionPlan M).levels (fun _ => none) previousCache
  let fusionResult ← fuse zoneId simTime.instant agentResults fusionConfig
  let tierState := transition previousTierState fusionResult tieringConfig
  let justification ← Justification.buildRiskAssessmentJustification agentResults fusionResult
    previousTierState.currentTier tierState.currentTier
  pure {
    agentResults, cache, tierState
    assessment := {
      assessmentId := deriveAssessmentId T zoneId simTime
      zoneId
      timestamp := simTime.instant
      compoundRiskScore := fusionResult.compoundRiskScore
      confidence := fusionResult.confidence
      tier := tierState.currentTier
      justification } }

def runZoneTick (M : Math R) (T : Text R Uuid) (zoneId : Uuid) (gasType : String)
    (simTime : DateTime) (tickId : Nat) (previousCache : AgentCache R)
    (previousTierState : TierState R) : Async Exc (Db R Uuid) (RiskPipelineResult R Uuid) := do
  let evaluation ← evaluateTick M T zoneId gasType simTime tickId previousCache previousTierState
  let _ ← await (Service.transaction (RiskAssessmentRepository.create evaluation.assessment))
  let counterfactualReadings ← await (Service.transaction do
    let db ← get
    pure (ContextBuilders.buildCounterfactualReadings T db zoneId [gasType] none))
  let counterfactual ←
    Counterfactual.evaluate T zoneId simTime.instant counterfactualReadings
  pure ⟨evaluation.assessment, evaluation.cache, evaluation.tierState, counterfactual⟩

/-! ## A request -/

def runTicks (M : Math R) (T : Text R Uuid) (zoneId : Uuid) (gasType : String) :
    List DateTime → Nat → AgentCache R → TierState R →
      Async Exc (Db R Uuid) (List (RiskPipelineResult R Uuid))
  | [], _, _, _ => pure []
  | simTime :: timestamps, tickId, cache, tierState => do
    let result ← runZoneTick M T zoneId gasType simTime tickId cache tierState
    let results ← runTicks M T zoneId gasType timestamps (tickId + 1) result.cache result.tierState
    pure (result :: results)

def runZone (M : Math R) (T : Text R Uuid) (group : (Uuid × String) × List DateTime) :
    Async Exc (Db R Uuid) (ZoneRun R Uuid) := do
  let ((zoneId, gasType), timestamps) := group
  let timestamps := timestamps.insertionSort fun a b => a.instant ≤ b.instant
  let results ← runTicks M T zoneId gasType timestamps 0 {} TierState.initial
  pure ⟨zoneId, timestamps, results⟩

def runZones (M : Math R) (T : Text R Uuid) (startTime : String)
    (readings : List (GeneratedReading R Uuid)) :
    Async Exc (Db R Uuid) (List (ZoneRun R Uuid)) := do
  let pairs ← zonePairs T startTime readings
  (Group.group pairs).mapM (runZone M T)

variable [FloorRing R]

def executeBuilderScenario (M : Math R) (T : Text R Uuid) (scenario : Scenario R) :
    Async Exc (Db R Uuid) (ScenarioExecutionResult R Uuid) := do
  let (errors, readings) ← await (Service.transaction (persistBuilderScenario M T scenario))
  let runs ← if errors ≠ [] then pure [] else runZones M T scenario.startTime readings
  let allTimestamps := runs.flatMap fun run => run.timestamps.map DateTime.instant
  pure {
    errors
    startTime := allTimestamps.min?
    endTime := allTimestamps.max?
    zoneResults := runs.filterMap ZoneRun.executionResult }

end Async
