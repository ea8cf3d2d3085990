import IndustrialSafety.LiveIngestion.Service
import IndustrialSafety.Services.ScenarioBuilder

/-!
# The engine as a state machine

The entry points that write to the database, in any order, from any state: a state is the database and
the caches and tier states that `run_zone_tick` has returned so far. A call that raises leaves what it had
committed before.
-/

namespace Runtime

open Py Scheduler Tiering

/-- A write from outside the tick loop. -/
inductive Write (R Uuid : Type)
  | ingestReading (readingId sensorId : Uuid) (value : R) (unit : Option String)
      (timestamp : DateTime) (qualityFlag : String)
  | ingestCsvFile (rows : List (LiveIngestion.CsvRow × Uuid))
  | runScenario (scenario : Simulation.Scenario R)
  | executeBuilderScenario (scenario : Simulation.Scenario R)
  | updateStatus (permitId : Uuid) (newStatus : String)

/-- A write, or a tick with the cache and tier state of the given thread. -/
inductive Action (R Uuid : Type)
  | write (w : Write R Uuid)
  | tick (thread : Nat) (zoneId : Uuid) (gasType : String) (simTime : DateTime) (tickId : Nat)

structure State (R Uuid : Type) where
  db : Db R Uuid
  threads : List (AgentCache R × TierState R)

/-- A database before the first tick. -/
def State.seeded {R Uuid : Type} [Field R] (db : Db R Uuid) : State R Uuid :=
  ⟨db, [({}, TierState.initial)]⟩

variable {R Uuid : Type} [Field R] [LinearOrder R] [DecidableEq Uuid] [FloorRing R]
  [IsStrictOrderedRing R]

/-- The call of a write. -/
def Write.call (M : Math R) (T : Text R Uuid) : Write R Uuid → Service Exc (Db R Uuid) Unit
  | .ingestReading readingId sensorId value unit timestamp qualityFlag => do
    let _ ← Service.transaction
      (LiveIngestion.ingestReading T readingId sensorId value unit timestamp qualityFlag)
  | .ingestCsvFile rows => do
    let _ ← Service.transaction (LiveIngestion.ingestCsvFile T rows)
  | .runScenario scenario => SimulationRunner.runScenario M T scenario
  | .executeBuilderScenario scenario => do
    let _ ← ScenarioBuilder.executeBuilderScenario M T scenario
  | .updateStatus permitId newStatus => do
    let _ ← Service.transaction (PermitRepository.updateStatus T permitId newStatus)

def State.next (M : Math R) (T : Text R Uuid) (s : State R Uuid) :
    Action R Uuid → State R Uuid
  | .write w => { s with db := (w.call M T s.db).2 }
  | .tick thread zoneId gasType simTime tickId =>
    match s.threads[thread]? with
    | none => s
    | some (cache, tierState) =>
      match RiskPipeline.runZoneTick M T zoneId gasType simTime tickId cache tierState s.db with
      | (.ok result, db) => ⟨db, s.threads ++ [(result.cache, result.tierState)]⟩
      | (.error _, db) => { s with db }

def State.run (M : Math R) (T : Text R Uuid) (s : State R Uuid) (actions : List (Action R Uuid)) :
    State R Uuid :=
  actions.foldl (State.next M T) s

/-- Two adjacent zones; zone 1 has two sensors with a threshold of 10, zone 2 a worker. -/
def plant : Db ℚ ℕ where
  zones := (Table.empty.upsert ⟨1, none⟩).upsert ⟨2, none⟩
  zoneAdjacency := Table.empty.upsert ⟨1, 2⟩
  sensors := (Table.empty.upsert ⟨7, 1, "CO", none, 10⟩).upsert ⟨8, 1, "H2S", none, 10⟩
  workers := Table.empty.upsert ⟨9, "operator", some 2⟩

end Runtime
