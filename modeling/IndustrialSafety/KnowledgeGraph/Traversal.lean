import IndustrialSafety.KnowledgeGraph.Relationships
import IndustrialSafety.Py.Basic

/-!
# Traversals of the graph

`get_subgraph` and `get_path` of `src/knowledge_graph/service.py`, over the two lookups they call.
-/

namespace KnowledgeGraph

open Py

/-- The lookups of a graph service. -/
structure GraphService (Kind : Type) where
  getEntity : Kind → String → Result (Option (GraphEntity Kind))
  getNeighbors : Kind → String → Result (List (GraphEdge Kind × GraphEntity Kind))

namespace GraphService

variable {Kind : Type} [DecidableEq Kind]

/-! ## Subgraphs -/

/-- What `get_subgraph` has collected: the values of its dictionary in insertion order, its edges, and
the keys of the next frontier. -/
structure Expansion (Kind : Type) where
  nodes : List (GraphEntity Kind)
  edges : List (GraphEdge Kind)
  nextFrontier : List (Kind × String)

/-- One neighbor: its edge is kept in any case, the neighbor only below the ceiling. -/
def addNeighbor (maxNodes : Nat) (s : Expansion Kind)
    (found : GraphEdge Kind × GraphEntity Kind) : Expansion Kind :=
  let s := { s with edges := s.edges ++ [found.1] }
  let key := found.2.key
  if key ∈ s.nodes.map GraphEntity.key then s
  else if maxNodes ≤ s.nodes.length then s
  else { s with nodes := s.nodes ++ [found.2], nextFrontier := s.nextFrontier ++ [key] }

variable (service : GraphService Kind)

/-- The loop over a frontier. -/
def expandFrontier (maxNodes : Nat) :
    List (Kind × String) → Expansion Kind → Result (Expansion Kind)
  | [], s => pure s
  | (kind, id) :: frontier, s =>
    if maxNodes ≤ s.nodes.length then pure s
    else do
      let neighbors ← service.getNeighbors kind id
      expandFrontier maxNodes frontier (neighbors.foldl (addNeighbor maxNodes) s)

/-- The loop over the levels. -/
def expandLevels (maxNodes : Nat) :
    Nat → List (Kind × String) → Expansion Kind → Result (Expansion Kind)
  | 0, _, s => pure s
  | depth + 1, frontier, s =>
    if maxNodes ≤ s.nodes.length then pure s
    else do
      let s ← service.expandFrontier maxNodes frontier { s with nextFrontier := [] }
      expandLevels maxNodes depth s.nextFrontier s

def getSubgraph (kind : Kind) (entityId : String) (depth maxNodes : Nat) :
    Result (List (GraphEntity Kind) × List (GraphEdge Kind)) := do
  match ← service.getEntity kind entityId with
  | none => pure ([], [])
  | some root =>
    let s ← service.expandLevels maxNodes depth [root.key] ⟨[root], [], []⟩
    pure (s.nodes, s.edges)

/-! ## Paths -/

/-- What `get_path` has collected. `parent` is a dictionary, its newest entry first. -/
structure Search (Kind : Type) where
  visited : List (Kind × String)
  parent : List ((Kind × String) × (Kind × String) × GraphEdge Kind)
  nextFrontier : List (Kind × String)

/-- The edges from `cursor` back to the start. The parent of a key was visited before it, so its own
entry is further on in the dictionary. -/
def walkBack (start : Kind × String) :
    List ((Kind × String) × (Kind × String) × GraphEdge Kind) → Kind × String →
      Result (List (GraphEdge Kind))
  | [], cursor => if cursor = start then pure [] else throw (.keyError cursor.2)
  | (key, prev, edge) :: parent, cursor =>
    if cursor = start then pure []
    else if key = cursor then do
      let edges ← walkBack start parent prev
      pure (edge :: edges)
    else walkBack start parent cursor

/-- The loop over the neighbors of a node: the path as soon as the goal is found. -/
def scanNeighbors (start goal node : Kind × String) :
    List (GraphEdge Kind × GraphEntity Kind) → Search Kind →
      Result (List (GraphEdge Kind) ⊕ Search Kind)
  | [], s => pure (.inr s)
  | (edge, neighbor) :: neighbors, s =>
    let key := neighbor.key
    if key ∈ s.visited then scanNeighbors start goal node neighbors s
    else
      let visited := key :: s.visited
      let parent := (key, node, edge) :: s.parent
      if key = goal then do
        let path ← walkBack start parent key
        pure (.inl path.reverse)
      else
        scanNeighbors start goal node neighbors ⟨visited, parent, s.nextFrontier ++ [key]⟩

def scanFrontier (start goal : Kind × String) :
    List (Kind × String) → Search Kind → Result (List (GraphEdge Kind) ⊕ Search Kind)
  | [], s => pure (.inr s)
  | node :: frontier, s => do
    let neighbors ← service.getNeighbors node.1 node.2
    match ← scanNeighbors start goal node neighbors s with
    | .inl path => pure (.inl path)
    | .inr s => scanFrontier start goal frontier s

def scanLevels (start goal : Kind × String) :
    Nat → List (Kind × String) → Search Kind → Result (Option (List (GraphEdge Kind)))
  | 0, _, _ => pure none
  | depth + 1, frontier, s => do
    match ← service.scanFrontier start goal frontier { s with nextFrontier := [] } with
    | .inl path => pure (some path)
    | .inr s =>
      if s.nextFrontier = [] then pure none
      else scanLevels start goal depth s.nextFrontier s

/-- `none` when no path is found. -/
def getPath (sourceKind : Kind) (sourceId : String) (targetKind : Kind) (targetId : String)
    (maxDepth : Nat) : Result (Option (List (GraphEdge Kind))) :=
  let start := (sourceKind, sourceId)
  let goal := (targetKind, targetId)
  if start = goal then pure (some [])
  else service.scanLevels start goal maxDepth [start] ⟨[start], [], []⟩

end GraphService

end KnowledgeGraph
