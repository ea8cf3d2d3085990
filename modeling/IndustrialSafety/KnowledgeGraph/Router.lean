import IndustrialSafety.Frontend.GraphLayout
import IndustrialSafety.KnowledgeGraph.Service

/-!
# The lookup endpoints

`get_entity` and `get_neighbors` of `src/api/routers/graph.py`, with the handlers of
`src/api/common/errors.py`: an `APIError` is a response of its own, and any other exception is answered as
an internal error.
-/

namespace KnowledgeGraph

open Py Historical

/-- `EntityKind.ALL`. -/
def EntityKind.all : List EntityKind := [plant, zone, sensor, sensorReading, worker, equipment, permit,
  riskAssessment, triggeredAgent, recommendation, historicalIncident, forecast, lessonLearned,
  counterfactual, businessImpact]

namespace Router

structure APIError where
  statusCode : Nat
  code : String
  message : String
deriving DecidableEq, Repr

abbrev Response (α : Type) := Except APIError α

def internalError : APIError := ⟨500, "INTERNAL_ERROR", "An internal error occurred."⟩

def entityNotFound (kind entityId : String) : APIError :=
  ⟨404, "ENTITY_NOT_FOUND", s!"No {kind} entity with id '{entityId}'."⟩

/-- `handle_unexpected_error`. -/
def serve {α : Type} (run : Result (Response α)) : Response α :=
  match run with
  | .ok response => response
  | .error _ => .error internalError

def requireValidKind (kind : String) : Response EntityKind :=
  match EntityKind.all.find? (·.value = kind) with
  | some entityKind => pure entityKind
  | none => throw ⟨400, "INVALID_ENTITY_KIND",
      s!"'{kind}' is not one of the graph's {EntityKind.all.length} entity kinds."⟩

variable {R Uuid : Type} [Field R] [LinearOrder R] [FloorRing R] [DecidableEq Uuid]
  (env : Env R Uuid) (db : Db R Uuid)

def getEntity (kind entityId : String) : Response (GraphEntity EntityKind) := do
  let entityKind ← requireValidKind kind
  serve do
    match ← KnowledgeGraph.getEntity env db entityKind entityId with
    | none => pure (throw (entityNotFound kind entityId))
    | some entity => pure (pure entity)

def getNeighbors (kind entityId : String) : Response (GraphEntity EntityKind × List Found) := do
  let entityKind ← requireValidKind kind
  serve do
    match ← KnowledgeGraph.getEntity env db entityKind entityId with
    | none => pure (throw (entityNotFound kind entityId))
    | some entity => do
      let neighbors ← KnowledgeGraph.getNeighbors env db entityKind entityId
      pure (pure (entity, neighbors))

end Router

end KnowledgeGraph
