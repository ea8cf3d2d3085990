import Mathlib.Data.List.Basic

/-!
# Entities and edges

`src/knowledge_graph/entities.py` and `relationships.py`: the kinds of nodes and relations, nodes and
edges. The traversals are used with the fifteen kinds of the platform and, in tests, with others, so the
kind is a parameter. Labels and attributes, which no traversal reads, are left out.
-/

namespace KnowledgeGraph

/-- The kinds of nodes of the platform. -/
inductive EntityKind
  | plant
  | zone
  | sensor
  | sensorReading
  | worker
  | equipment
  | permit
  | riskAssessment
  | triggeredAgent
  | recommendation
  | historicalIncident
  | forecast
  | lessonLearned
  | counterfactual
  | businessImpact
deriving DecidableEq, Repr

inductive RelationKind
  | contains
  | adjacentTo
  | produced
  | authorizes
  | forZone
  | assessedBy
  | triggered
  | evidence
  | generated
  | addresses
  | matched
  | supports
  | projectsFor
  | coOccursWith
  | references
  | learnedFrom
  | sameOutcome
  | sameTriggeredRule
  | impactOf
deriving DecidableEq, Repr

structure GraphEntity (Kind : Type) where
  kind : Kind
  id : String
deriving DecidableEq, Repr

structure GraphEdge (Kind : Type) where
  sourceKind : Kind
  sourceId : String
  relation : RelationKind
  targetKind : Kind
  targetId : String
deriving DecidableEq, Repr

variable {Kind : Type}

/-- `(entity.kind, entity.id)`. -/
def GraphEntity.key (entity : GraphEntity Kind) : Kind × String := (entity.kind, entity.id)

def GraphEdge.source (edge : GraphEdge Kind) : Kind × String := (edge.sourceKind, edge.sourceId)

def GraphEdge.target (edge : GraphEdge Kind) : Kind × String := (edge.targetKind, edge.targetId)

/-- The edge joins `a` and `b`, in one direction or the other. -/
def GraphEdge.Connects (edge : GraphEdge Kind) (a b : Kind × String) : Prop :=
  edge.source = a ∧ edge.target = b ∨ edge.source = b ∧ edge.target = a

end KnowledgeGraph
