import IndustrialSafety.Agents.Base
import Mathlib.Logic.Function.Basic

/-!
# The scheduler

`src/domain/orchestrator/scheduler.py`: one tick of the execution plan, level by level. An agent
that fails is replaced by its last known result with decayed confidence.
-/

namespace Scheduler

open Py

variable {R Uuid : Type} [Field R] [LinearOrder R]

abbrev ContextBuilder (R Uuid : Type) :=
  Uuid → Instant → Nat → Results R → Result (AgentInput R Uuid)

structure ExecutionLevel (R Uuid : Type) where
  agents : List (Agent R Uuid)

structure ExecutionPlan (R Uuid : Type) where
  levels : List (ExecutionLevel R Uuid)

def buildDefaultExecutionPlan (gasRiskAgent equipmentStatusAgent permitIntelligenceAgent
    workerExposureAgent : Agent R Uuid) : ExecutionPlan R Uuid :=
  ⟨[⟨[gasRiskAgent, equipmentStatusAgent]⟩, ⟨[permitIntelligenceAgent]⟩, ⟨[workerExposureAgent]⟩]⟩

structure AgentCache (R : Type) where
  lastKnownResults : Results R := fun _ => none

def AgentCache.withResult (cache : AgentCache R) (agentName : String) (result : AgentResult R) :
    AgentCache R :=
  ⟨Function.update cache.lastKnownResults agentName (some result)⟩

structure SchedulerConfig (R : Type) where
  algorithmName : String
  algorithmVersion : Int
  stalenessDecayLambda : R

def SchedulerConfig.default (M : Math R) : SchedulerConfig R where
  algorithmName := "orchestrator_scheduler"
  algorithmVersion := 1
  stalenessDecayLambda := M.ln2 / 5

def decayConfidenceForStaleness (M : Math R) (lastKnown : AgentResult R)
    (currentSimTime : Instant) (config : SchedulerConfig R) : AgentResult R :=
  let elapsedMinutes := max (minutes (currentSimTime - lastKnown.computedAt)) 0
  { agentName := lastKnown.agentName
    risk := lastKnown.risk
    confidence := lastKnown.confidence * M.decay config.stalenessDecayLambda elapsedMinutes
    justification := ⟨["agent_unavailable_using_last_known"],
      .lastKnown lastKnown.computedAt elapsedMinutes lastKnown.confidence⟩
    computedAt := currentSimTime }

/-- `_run_agent`. -/
def runAgent (agent : Agent R Uuid) (zoneId : Uuid) (simTime : Instant) (tickId : Nat)
    (builder : ContextBuilder R Uuid) (resultsSoFar : Results R) : Result (AgentResult R) := do
  let agentInput ← builder zoneId simTime tickId resultsSoFar
  agent.evaluate agentInput

abbrev ContextBuilders (R Uuid : Type) := String → Option (ContextBuilder R Uuid)

/-- `asyncio.gather(..., return_exceptions=True)` over one level: every agent's name and outcome. A
missing context builder raises before any agent runs. -/
def gather (zoneId : Uuid) (simTime : Instant) (tickId : Nat)
    (contextBuilders : ContextBuilders R Uuid) (results : Results R)
    (level : ExecutionLevel R Uuid) : Result (List (String × Result (AgentResult R))) :=
  level.agents.mapM fun agent =>
    match contextBuilders agent.name with
    | some builder => pure (agent.name, runAgent agent zoneId simTime tickId builder results)
    | none => throw (.keyError agent.name)

/-- The loop over one level's outcomes. -/
def settle (M : Math R) (simTime : Instant) (config : SchedulerConfig R) :
    List (String × Result (AgentResult R)) → Results R → AgentCache R →
      Result (Results R × AgentCache R)
  | [], results, cache => pure (results, cache)
  | (name, .ok outcome) :: outcomes, results, cache =>
    settle M simTime config outcomes (Function.update results name (some outcome))
      (cache.withResult name outcome)
  | (name, .error _) :: outcomes, results, cache =>
    match cache.lastKnownResults name with
    | none => throw (.noLastKnownResultError
        s!"{name} failed on its first tick; no last-known result to fall back on")
    | some lastKnown =>
      -- the cache keeps the genuine result
      settle M simTime config outcomes
        (Function.update results name (some (decayConfidenceForStaleness M lastKnown simTime config)))
        cache

/-- The loop over the levels. -/
def runLevels (M : Math R) (zoneId : Uuid) (simTime : Instant) (tickId : Nat)
    (contextBuilders : ContextBuilders R Uuid) (config : SchedulerConfig R) :
    List (ExecutionLevel R Uuid) → Results R → AgentCache R → Result (Results R × AgentCache R)
  | [], results, cache => pure (results, cache)
  | level :: levels, results, cache => do
    let outcomes ← gather zoneId simTime tickId contextBuilders results level
    let (results, cache) ← settle M simTime config outcomes results cache
    runLevels M zoneId simTime tickId contextBuilders config levels results cache

def runTick (M : Math R) (plan : ExecutionPlan R Uuid) (zoneId : Uuid) (simTime : Instant)
    (tickId : Nat) (contextBuilders : ContextBuilders R Uuid) (previousCache : AgentCache R)
    (config : SchedulerConfig R) : Result (Results R × AgentCache R) :=
  runLevels M zoneId simTime tickId contextBuilders config plan.levels (fun _ => none)
    previousCache

end Scheduler
