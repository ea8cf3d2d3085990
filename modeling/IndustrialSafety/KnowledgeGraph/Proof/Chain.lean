import IndustrialSafety.Historical.Proof.Coherence
import IndustrialSafety.KnowledgeGraph.Proof.Handlers
import IndustrialSafety.KnowledgeGraph.Proof.Path
import IndustrialSafety.Services.Runtime

/-!
# Why-paths

The paths of `get_path` in the graph of a database (`path_shortest_chained`). The edges of a path lead from
its start to its end, each from the node where the one before it ends, but for two kinds: the edge from a
forecast to an incident is the incident's, and the edges of the plant name it by its own id.
-/

namespace KnowledgeGraph

open Py Historical

/-- The edge leads from `a` to `b`. -/
def Leads (a : EntityKind × String) (edge : GraphEdge EntityKind) (b : EntityKind × String) : Prop :=
  edge.source = a ∧ edge.target = b

/-- What a step of `get_neighbors` draws: the edge leads to the neighbor, but an incident supports a
forecast. -/
def Drawn (a : EntityKind × String) (edge : GraphEdge EntityKind) (b : EntityKind × String) : Prop :=
  if a.1 = .forecast ∧ b.1 = .historicalIncident then edge.relation = .supports ∧ Leads b edge a
  else Leads (namedKey a.1 a.2) edge b

section
variable {R Uuid : Type} [Field R] [LinearOrder R] [FloorRing R] [DecidableEq Uuid]
  {env : Env R Uuid} {db : Db R Uuid}

/-- The only fact between a forecast and an incident is the incident's support. -/
theorem Shows.supports_iff {a b : Node Uuid} {relation : RelationKind}
    (h : Shows env db a relation b) :
    relation = .supports ↔ a.kind = .forecast ∧ b.kind = .historicalIncident := by
  cases h <;> simp [Node.kind]

theorem draw_drawn {a b : Node Uuid} {key : EntityKind × String} {relation : RelationKind}
    (h : Shows env db a relation b) (hkind : a.kind = key.1) :
    Drawn key (draw env.text (namedKey key.1 key.2) relation b).1 (b.entity env.text).key := by
  have hsupports := h.supports_iff
  have hb : (b.entity env.text).key.1 = b.kind := Node.entity_kind env.text b
  unfold Drawn
  rw [hb, ← hkind]
  split
  case isTrue hsupport =>
    obtain rfl := hsupports.2 hsupport
    have hnamed : namedKey key.1 key.2 = key := by
      obtain ⟨kind, id⟩ := key
      obtain rfl : kind = .forecast := hkind.symm.trans hsupport.1
      rfl
    rw [← hkind] at hnamed
    refine ⟨rfl, rfl, ?_⟩
    exact hnamed
  case isFalse hother =>
    have hne : relation ≠ .supports := fun h => hother (hsupports.1 h)
    unfold draw drawEdge
    split
    · exact absurd rfl hne
    · exact ⟨rfl, rfl⟩

theorem step_drawn {a b : EntityKind × String} {edge : GraphEdge EntityKind}
    (h : (graphService env db).Step a edge b) : Drawn a edge b := by
  obtain ⟨neighbors, entity, hneighbors, hmem, rfl⟩ := h
  obtain ⟨node, relation, b, hread, hshows, heq⟩ := (mem_getNeighbors hneighbors _).1 hmem
  obtain ⟨rfl, rfl⟩ := Prod.mk.inj heq
  exact draw_drawn hshows (readId_kind env.text hread)

/-- **Why-paths.** A path is a shortest walk of at most `maxDepth` steps whose edges are drawn from its
start to its end; no path means that no walk is short enough; an exception is one that `get_neighbors`
raises fewer than `maxDepth` steps away. -/
theorem path_shortest_chained (env : Env R Uuid) (db : Db R Uuid) (source target : EntityKind × String)
    (maxDepth : ℕ) :
    let service := graphService env db
    let found := service.getPath source.1 source.2 target.1 target.2 maxDepth
    (∀ path, found = .ok (some path) →
      Shortest service.Step source path target ∧ path.length ≤ maxDepth ∧
        (path = [] ↔ source = target) ∧ Walk Drawn source path target) ∧
    (found = .ok none → ¬Within service.Step maxDepth source target) ∧
    ∀ e, found = .error e → ∃ m < maxDepth, ∃ b, Sphere service.Step m source b ∧
      service.getNeighbors b.1 b.2 = .error e := by
  intro service found
  have hspec := service.getPath_spec source.1 source.2 target.1 target.2 maxDepth
  refine ⟨fun path hpath => ?_, fun hnone => ?_, fun e he => ?_⟩
  · rw [show service.getPath _ _ _ _ _ = _ from hpath] at hspec
    obtain ⟨hshortest, hlen⟩ := hspec
    refine ⟨hshortest, hlen, ⟨?_, ?_⟩, hshortest.1.mono fun a e b => step_drawn⟩
    · rintro rfl
      exact Walk.nil_iff.1 hshortest.1
    · rintro rfl
      exact List.eq_nil_of_length_eq_zero (Nat.le_zero.1 (hshortest.2 [] (.nil _)))
  · rwa [show service.getPath _ _ _ _ _ = _ from hnone] at hspec
  · rwa [show service.getPath _ _ _ _ _ = _ from he] at hspec

end

/-! ## Paths that do not chain -/

theorem leads_head {a b k : EntityKind × String} {path : List (GraphEdge EntityKind)}
    (h : Walk Leads a path b) (hk : (path.map GraphEdge.source).head? = some k) : k = a := by
  cases h with
  | nil => cases hk
  | cons hstep _ =>
    cases hk
    exact hstep.1

/-- An uneventful tick. -/
def quietTick (assessmentId zoneId : ℕ) (timestamp : Instant) : RiskAssessment ℚ ℕ :=
  ⟨assessmentId, zoneId, timestamp, 0, 1, .normal, ⟨1, [], [], 1, .normal, .normal⟩⟩

/-- A second incident with the same ticks. -/
def twinEnv : Env ℚ ℕ :=
  { leakEnv with files := leakEnv.files ++
      leakEnv.files.map ({ · with stem := "scenario_critical_gas_leak" }) }

def twinPlant : Db ℚ ℕ :=
  { leakPlant with riskAssessments := Table.empty.upsert (quietTick 1 compressorHouse 720000000) }

/-- Zone 1 has a negative reading and an assessment; zone 2, which is adjacent, has a sensor with a
reading. -/
def refusedPlant : Db ℚ ℕ :=
  { Runtime.plant with
    sensors := Runtime.plant.sensors.upsert ⟨10, 2, "CO", none, 10⟩
    sensorReadings := (Table.empty.upsert ⟨1, 7, 1, "CO", -1, "ppm", 0, "ok"⟩).upsert
      ⟨2, 10, 2, "CO", 1, "ppm", 0, "ok"⟩
    riskAssessments := Table.empty.upsert (quietTick 1 1 720000000) }

def twinForecast : String := forecastId plainText compressorHouse ⟨720000000, 0⟩

/-- A path whose first edge leaves another node than `source`. -/
theorem unchained_of_head (service : GraphService EntityKind) (source target k : EntityKind × String)
    (maxDepth : ℕ) (hne : k ≠ source)
    (h : (service.getPath source.1 source.2 target.1 target.2 maxDepth).toOption.map
      (·.bind fun path => (path.map GraphEdge.source).head?) = some (some k)) :
    ∃ path, service.getPath source.1 source.2 target.1 target.2 maxDepth = .ok (some path) ∧
      ¬Walk Leads source path target := by
  obtain ⟨found, hfound, hhead⟩ := Except.toOption_map_eq_some.1 h
  obtain ⟨path, rfl, hhead⟩ := Option.bind_eq_some_iff.1 hhead
  exact ⟨path, hfound, fun hwalk => hne (leads_head hwalk hhead)⟩

theorem within_of_getPath (service : GraphService EntityKind) (source target : EntityKind × String)
    (maxDepth : ℕ) (h : (service.getPath source.1 source.2 target.1 target.2 maxDepth).toOption.map
      Option.isSome = some true) :
    ∃ path, Walk service.Step source path target ∧ path.length ≤ maxDepth := by
  obtain ⟨found, hfound, hsome⟩ := Except.toOption_map_eq_some.1 h
  obtain ⟨path, rfl⟩ := Option.isSome_iff_exists.1 hsome
  have hspec := service.getPath_spec source.1 source.2 target.1 target.2 maxDepth
  rw [hfound] at hspec
  exact ⟨path, hspec.1.1, hspec.2⟩

/-- The edge from a forecast to an incident is the incident's; an edge of the plant leaves another id than
the one asked for; a reading three steps away is not found, as an assessment on the way is refused. -/
theorem path_unchained :
    (∃ path, (graphService twinEnv twinPlant).getPath .forecast twinForecast .historicalIncident
        "scenario_critical_gas_leak" 1 = .ok (some path) ∧
      ¬Walk Leads (.forecast, twinForecast) path
        (.historicalIncident, "scenario_critical_gas_leak")) ∧
    (∃ path, (graphService twinEnv Runtime.plant).getPath .plant "north" .zone "2" 1 =
        .ok (some path) ∧ ¬Walk Leads (.plant, "north") path (.zone, "2")) ∧
    Within (graphService twinEnv refusedPlant).Step 3 (.zone, "1") (.sensorReading, "2") ∧
      ∃ e, (graphService twinEnv refusedPlant).getPath .zone "1" .sensorReading "2" 3 = .error e := by
  refine ⟨?_, ?_, ?_, ?_⟩
  · exact unchained_of_head (graphService twinEnv twinPlant) (.forecast, twinForecast)
      (.historicalIncident, "scenario_critical_gas_leak")
      (.historicalIncident, "scenario_critical_gas_leak") 1 (by decide) (by decide +kernel)
  · exact unchained_of_head (graphService twinEnv Runtime.plant) (.plant, "north") (.zone, "2")
      (.plant, "plant") 1 (by decide) (by decide +kernel)
  · obtain ⟨path, hpath, hlen⟩ := within_of_getPath (graphService twinEnv refusedPlant) (.zone, "1")
      (.zone, "2") 1 (by decide +kernel)
    obtain ⟨path', hpath', hlen'⟩ := within_of_getPath (graphService twinEnv refusedPlant)
      (.zone, "2") (.sensorReading, "2") 2 (by decide +kernel)
    refine ⟨path ++ path', hpath.append hpath', ?_⟩
    rw [List.length_append]
    omega
  · have hnone : ((graphService twinEnv refusedPlant).getPath .zone "1" .sensorReading "2" 3).toOption =
        none := by decide +kernel
    cases h : (graphService twinEnv refusedPlant).getPath .zone "1" .sensorReading "2" 3 with
    | error e => exact ⟨e, rfl⟩
    | ok found =>
      rw [h] at hnone
      cases hnone

end KnowledgeGraph
