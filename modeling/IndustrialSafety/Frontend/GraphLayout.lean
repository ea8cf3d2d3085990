import IndustrialSafety.KnowledgeGraph.Relationships
import IndustrialSafety.Lib.Group
import IndustrialSafety.Lib.Literal
import Mathlib.Algebra.Field.Defs
import Mathlib.Data.List.Lex
import Mathlib.Data.List.Sort
import Mathlib.Logic.Function.Basic

/-!
# The radial layout

`frontend/src/lib/graphLayout.ts`: the client's own breadth-first search over the nodes and edges it was
sent, one ring for each distance from the root. A node or an edge end is known by its text
`kind:id`. Coordinates are elements of a field, with `Math.PI`, `Math.cos` and `Math.sin` as a parameter.
-/

namespace KnowledgeGraph

/-- The text of a kind. -/
def EntityKind.value : EntityKind → String
  | plant => "plant"
  | zone => "zone"
  | sensor => "sensor"
  | sensorReading => "sensor_reading"
  | worker => "worker"
  | equipment => "equipment"
  | permit => "permit"
  | riskAssessment => "risk_assessment"
  | triggeredAgent => "triggered_agent"
  | recommendation => "recommendation"
  | historicalIncident => "historical_incident"
  | forecast => "forecast"
  | lessonLearned => "lesson_learned"
  | counterfactual => "counterfactual"
  | businessImpact => "business_impact"

/-- The text of a relation. -/
def RelationKind.value : RelationKind → String
  | contains => "contains"
  | adjacentTo => "adjacent_to"
  | produced => "produced"
  | authorizes => "authorizes"
  | forZone => "for_zone"
  | assessedBy => "assessed_by"
  | triggered => "triggered"
  | evidence => "evidence"
  | generated => "generated"
  | addresses => "addresses"
  | matched => "matched"
  | supports => "supports"
  | projectsFor => "projects_for"
  | coOccursWith => "co_occurs_with"
  | references => "references"
  | learnedFrom => "learned_from"
  | sameOutcome => "same_outcome"
  | sameTriggeredRule => "same_triggered_rule"
  | impactOf => "impact_of"

end KnowledgeGraph

namespace Frontend

open KnowledgeGraph

/-- `Math.PI`, `Math.cos` and `Math.sin`. -/
structure Trig (R : Type) [Field R] where
  pi : R
  cos : R → R
  sin : R → R
  cos_sq_add_sin_sq : ∀ x, cos x ^ 2 + sin x ^ 2 = 1

structure LaidOutNode (R : Type) where
  key : String
  entity : GraphEntity EntityKind
  x : R
  y : R

namespace GraphLayout

def nodeKey (kind : EntityKind) (id : String) : String := kind.value ++ ":" ++ id

/-- The id of a rendered edge. -/
def edgeKey (edge : GraphEdge EntityKind) : String :=
  nodeKey edge.sourceKind edge.sourceId ++ "->" ++ nodeKey edge.targetKind edge.targetId ++ ":" ++
    edge.relation.value

/-- `byKey.get(key)`: a later node replaces an earlier one of its key. -/
def byKey (nodes : List (GraphEntity EntityKind)) (key : String) : Option (GraphEntity EntityKind) :=
  nodes.reverse.find? fun node => nodeKey node.kind node.id = key

/-! ## The adjacency -/

/-- A map of sets, each in the order of its insertions. -/
abbrev Adjacency := String → Option (List String)

/-- `adjacency.get(key)?.add(neighbor)`. -/
def Adjacency.add (adjacency : Adjacency) (key neighbor : String) : Adjacency :=
  Function.update adjacency key
    ((adjacency key).map fun set => if neighbor ∈ set then set else set ++ [neighbor])

def addNode (adjacency : Adjacency) (node : GraphEntity EntityKind) : Adjacency :=
  Function.update adjacency (nodeKey node.kind node.id) (some [])

/-- An edge with an end that is no node is left out. -/
def addEdge (adjacency : Adjacency) (edge : GraphEdge EntityKind) : Adjacency :=
  let source := nodeKey edge.sourceKind edge.sourceId
  let target := nodeKey edge.targetKind edge.targetId
  if (adjacency source).isSome ∧ (adjacency target).isSome then
    (adjacency.add source target).add target source
  else adjacency

def adjacencyOf (nodes : List (GraphEntity EntityKind)) (edges : List (GraphEdge EntityKind)) :
    Adjacency :=
  edges.foldl addEdge (nodes.foldl addNode fun _ => none)

/-- `adjacency.get(current) ?? []`. -/
def Adjacency.neighbors (adjacency : Adjacency) (current : String) : List String :=
  (adjacency current).getD []

/-! ## The distances -/

/-- The map `distance`, in the order of its insertions, and the queue. -/
structure Search where
  distance : List (String × Nat)
  queue : List String

/-- One neighbor of a node of the ring before `ring`. -/
def visit (ring : Nat) (s : Search) (neighbor : String) : Search :=
  if neighbor ∈ s.distance.map Prod.fst then s
  else ⟨s.distance ++ [(neighbor, ring)], s.queue ++ [neighbor]⟩

/-- The loop over the queue; `none` where `fuel` turns are not enough. -/
def search (adjacency : Adjacency) : Nat → Search → Option (List (String × Nat))
  | _, ⟨distance, []⟩ => some distance
  | 0, ⟨_, _ :: _⟩ => none
  | fuel + 1, ⟨distance, current :: queue⟩ =>
    let currentDistance := (distance.lookup current).getD 0
    search adjacency fuel
      ((adjacency.neighbors current).foldl (visit (currentDistance + 1)) ⟨distance, queue⟩)

/-! ## The rings -/

/-- The code units that `sort()` compares. -/
def codeUnits (s : String) : List Nat :=
  s.toList.flatMap fun c =>
    if c.toNat < 0x10000 then [c.toNat]
    else [0xD800 + (c.toNat - 0x10000) / 0x400, 0xDC00 + (c.toNat - 0x10000) % 0x400]

/-- `[...members].sort()`. -/
def sortKeys (members : List String) : List String :=
  members.insertionSort fun a b => codeUnits a ≤ codeUnits b

variable {R : Type} [Field R] (trig : Trig R) (ringSpacing : R)

/-- The member at `index` of a ring of `size`, unless no node has its key. -/
def place (nodes : List (GraphEntity EntityKind)) (ring size : Nat) (key : String) (index : Nat) :
    Option (LaidOutNode R) :=
  match byKey nodes key with
  | none => none
  | some entity =>
    if ring = 0 then some ⟨key, entity, 0, 0⟩
    else
      let angle := 2 * trig.pi * index / size
      let radius := ring * ringSpacing
      some ⟨key, entity, radius * trig.cos angle, radius * trig.sin angle⟩

def layoutRing (nodes : List (GraphEntity EntityKind)) (ring : Nat) (members : List String) :
    List (LaidOutNode R) :=
  let sorted := sortKeys members
  sorted.zipIdx.filterMap fun (key, index) =>
    place trig ringSpacing nodes ring sorted.length key index

/-- `none` where the search runs out of turns: a node is queued at most once, so one turn for each node
is enough. -/
def layoutRadial (rootKey : String) (nodes : List (GraphEntity EntityKind))
    (edges : List (GraphEdge EntityKind)) (ringSpacing : Option R) : Option (List (LaidOutNode R)) :=
  let ringSpacing := ringSpacing.getD 220
  if (byKey nodes rootKey).isNone then some []
  else
    match search (adjacencyOf nodes edges) nodes.length ⟨[(rootKey, 0)], [rootKey]⟩ with
    | none => none
    | some distance =>
      let ringMembers := Group.group (distance.map fun (key, ring) => (ring, key))
      some (ringMembers.flatMap fun (ring, members) =>
        layoutRing trig ringSpacing nodes ring members)

end GraphLayout

end Frontend
