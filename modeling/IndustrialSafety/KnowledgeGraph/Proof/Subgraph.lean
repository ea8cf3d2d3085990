import IndustrialSafety.KnowledgeGraph.Traversal
import IndustrialSafety.Lib.Bfs
import IndustrialSafety.Lib.Result

/-!
# Bounded expansion

`get_subgraph` is the breadth-first search cut off at `maxNodes` (`getSubgraph_eq`): it returns the first
`maxNodes` nodes of the search without a ceiling, and every edge of the nodes it expanded before the
ceiling. So the nodes are exact (`subgraph_exact`), and the edges stay among them iff no single expansion
passes the ceiling (`subgraph_closed_iff`).
-/

namespace KnowledgeGraph

open Py

variable {Kind : Type}

/-- A neighbor relation, as a function. -/
abbrev Neighbors (Kind : Type) := Kind → String → List (GraphEdge Kind × GraphEntity Kind)

namespace Neighbors

variable (neighbors : Neighbors Kind)

/-- One `get_neighbors` step. -/
def Step (a : Kind × String) (edge : GraphEdge Kind) (b : Kind × String) : Prop :=
  ∃ entity, (edge, entity) ∈ neighbors a.1 a.2 ∧ entity.key = b

def entities (a : Kind × String) : List (GraphEntity Kind) := (neighbors a.1 a.2).map Prod.snd

def edges (a : Kind × String) : List (GraphEdge Kind) := (neighbors a.1 a.2).map Prod.fst

variable {neighbors}

theorem mem_entities {a b : Kind × String} :
    b ∈ (neighbors.entities a).map GraphEntity.key ↔ ∃ edge, neighbors.Step a edge b := by
  simp only [entities, Step, List.map_map, List.mem_map, Prod.exists, Function.comp_apply]

end Neighbors

open Neighbors

variable [DecidableEq Kind]

namespace GraphService

/-! ## One expansion -/

variable {service : GraphService Kind} {neighbors : Neighbors Kind} {maxNodes : Nat}
  {nodes : List (GraphEntity Kind)} {edges : List (GraphEdge Kind)}
  {nextFrontier : List (Kind × String)}

theorem addNeighbor_eq (edge : GraphEdge Kind) (entity : GraphEntity Kind) :
    addNeighbor maxNodes ⟨nodes, edges, nextFrontier⟩ (edge, entity) =
      if entity.key ∈ nodes.map GraphEntity.key ∨ maxNodes ≤ nodes.length then
        ⟨nodes, edges ++ [edge], nextFrontier⟩
      else ⟨nodes ++ [entity], edges ++ [edge], nextFrontier ++ [entity.key]⟩ := by
  unfold addNeighbor
  dsimp only
  by_cases hseen : entity.key ∈ nodes.map GraphEntity.key
  · simp only [hseen, true_or, if_true]
  · simp only [hseen, false_or, if_false]

/-- The new neighbors that fit below the ceiling. -/
def fitting (maxNodes : Nat) (nodes found : List (GraphEntity Kind)) : List (GraphEntity Kind) :=
  (Bfs.discover GraphEntity.key nodes found).take (maxNodes - nodes.length)

theorem fitting_full {found : List (GraphEntity Kind)} (hfull : maxNodes ≤ nodes.length) :
    fitting maxNodes nodes found = [] := by
  unfold fitting
  rw [Nat.sub_eq_zero_of_le hfull, List.take_zero]

theorem length_fitting (hle : nodes.length ≤ maxNodes) (found : List (GraphEntity Kind)) :
    (nodes ++ fitting maxNodes nodes found).length =
      min maxNodes (nodes.length + (Bfs.discover GraphEntity.key nodes found).length) := by
  unfold fitting
  rw [List.length_append, List.length_take]
  omega

/-- The neighbors of a node: the new ones are kept below the ceiling. -/
theorem foldl_addNeighbor (found : List (GraphEdge Kind × GraphEntity Kind))
    (hle : nodes.length ≤ maxNodes) :
    found.foldl (addNeighbor maxNodes) ⟨nodes, edges, nextFrontier⟩ =
      ⟨nodes ++ fitting maxNodes nodes (found.map Prod.snd), edges ++ found.map Prod.fst,
        nextFrontier ++ (fitting maxNodes nodes (found.map Prod.snd)).map GraphEntity.key⟩ := by
  induction found generalizing nodes edges nextFrontier with
  | nil => simp [fitting, Bfs.discover]
  | cons p found ih =>
    obtain ⟨edge, entity⟩ := p
    rw [List.foldl_cons, addNeighbor_eq, List.map_cons, List.map_cons]
    rcases le_or_gt maxNodes nodes.length with hfull | hroom
    · rw [if_pos (.inr hfull), ih hle, fitting_full hfull, fitting_full hfull]
      simp
    · by_cases hseen : entity.key ∈ nodes.map GraphEntity.key
      · have hfitting : fitting maxNodes nodes (entity :: found.map Prod.snd) =
            fitting maxNodes nodes (found.map Prod.snd) := by
          unfold fitting
          rw [Bfs.discover_cons, if_pos hseen]
        rw [if_pos (.inl hseen), ih hle, hfitting]
        simp
      · have hfitting : fitting maxNodes nodes (entity :: found.map Prod.snd) =
            entity :: fitting maxNodes (nodes ++ [entity]) (found.map Prod.snd) := by
          unfold fitting
          rw [Bfs.discover_cons, if_neg hseen, List.length_append, List.length_singleton]
          rw [show maxNodes - nodes.length = maxNodes - (nodes.length + 1) + 1 by omega]
          rw [List.take_succ_cons]
        rw [if_neg (not_or.2 ⟨hseen, not_le.2 hroom⟩), ih (by simp; omega), hfitting]
        simp

theorem expandFrontier_full (frontier : List (Kind × String)) {s : Expansion Kind}
    (hfull : maxNodes ≤ s.nodes.length) : service.expandFrontier maxNodes frontier s = .ok s := by
  cases frontier with
  | nil => rfl
  | cons a frontier =>
    unfold expandFrontier
    rw [if_pos hfull]
    rfl

/-- The entities the expansion of some nodes asks for. -/
abbrev asked (neighbors : Neighbors Kind) (l : List (GraphEntity Kind)) : List (GraphEntity Kind) :=
  l.flatMap fun x => neighbors.entities x.key

/-- The edges the expansion of some nodes returns. -/
abbrev returned (neighbors : Neighbors Kind) (l : List (GraphEntity Kind)) : List (GraphEdge Kind) :=
  l.flatMap fun x => neighbors.edges x.key

/-- How many nodes are known once those of `l` are expanded without a ceiling. -/
def known (neighbors : Neighbors Kind) (nodes l : List (GraphEntity Kind)) : Nat :=
  nodes.length + (Bfs.discover GraphEntity.key nodes (asked neighbors l)).length

/-- Expanding `x` first. -/
theorem discover_asked_cons {x : GraphEntity Kind} {here : List (GraphEntity Kind)}
    (hhere : Bfs.discover GraphEntity.key nodes (neighbors.entities x.key) = here)
    (l : List (GraphEntity Kind)) : Bfs.discover GraphEntity.key nodes (asked neighbors (x :: l)) =
      here ++ Bfs.discover GraphEntity.key (nodes ++ here) (asked neighbors l) := by
  rw [asked, List.flatMap_cons, Bfs.discover_append, hhere]

section
variable (hneighbors : ∀ kind id, service.getNeighbors kind id = .ok (neighbors kind id))

include hneighbors

theorem expandFrontier_cons (x : GraphEntity Kind) (frontier : List (GraphEntity Kind))
    (hroom : nodes.length < maxNodes) :
    service.expandFrontier maxNodes ((x :: frontier).map GraphEntity.key)
        ⟨nodes, edges, nextFrontier⟩ =
      service.expandFrontier maxNodes (frontier.map GraphEntity.key)
        ⟨nodes ++ fitting maxNodes nodes (neighbors.entities x.key),
          edges ++ neighbors.edges x.key,
          nextFrontier ++ (fitting maxNodes nodes (neighbors.entities x.key)).map GraphEntity.key⟩ := by
  rw [List.map_cons]
  show service.expandFrontier maxNodes ((x.key.1, x.key.2) :: _) _ = _
  conv_lhs => unfold expandFrontier
  rw [if_neg (not_le.2 hroom), hneighbors]
  show service.expandFrontier _ _ ((neighbors x.key.1 x.key.2).foldl _ _) = _
  rw [foldl_addNeighbor _ hroom.le]
  rfl

/-- The expansion of a frontier: `j` of its nodes are expanded, up to the ceiling. -/
theorem expandFrontier_eq (edges : List (GraphEdge Kind)) (nextFrontier : List (Kind × String))
    (frontier : List (GraphEntity Kind)) (hle : nodes.length ≤ maxNodes) :
    ∃ j ≤ frontier.length,
      service.expandFrontier maxNodes (frontier.map GraphEntity.key) ⟨nodes, edges, nextFrontier⟩ =
        .ok ⟨nodes ++ fitting maxNodes nodes (asked neighbors frontier),
          edges ++ returned neighbors (frontier.take j),
          nextFrontier ++ (fitting maxNodes nodes (asked neighbors frontier)).map GraphEntity.key⟩ ∧
      (∀ i < j, known neighbors nodes (frontier.take i) < maxNodes) ∧
      (j = frontier.length ∨ maxNodes ≤ known neighbors nodes (frontier.take j)) := by
  induction frontier generalizing nodes edges nextFrontier with
  | nil => exact ⟨0, le_rfl, by simp [expandFrontier, fitting, Bfs.discover], by simp, .inl rfl⟩
  | cons x frontier ih =>
    rcases le_or_gt maxNodes nodes.length with hfull | hroom
    · refine ⟨0, Nat.zero_le _, ?_, by simp, .inr ?_⟩
      · rw [expandFrontier_full _ hfull, fitting_full hfull]
        simp
      · exact hfull.trans (Nat.le_add_right _ _)
    rw [expandFrontier_cons hneighbors x frontier hroom]
    have hzero : known neighbors nodes [] < maxNodes := by simpa [known, Bfs.discover] using hroom
    obtain ⟨here, hhere⟩ : ∃ here,
      Bfs.discover GraphEntity.key nodes (neighbors.entities x.key) = here := ⟨_, rfl⟩
    rcases le_or_gt maxNodes (nodes.length + here.length) with hover | hfits
    · -- the neighbors of `x` reach the ceiling
      have hlen := length_fitting hroom.le (neighbors.entities x.key)
      rw [hhere] at hlen
      have hfitting : fitting maxNodes nodes (asked neighbors (x :: frontier)) =
          fitting maxNodes nodes (neighbors.entities x.key) := by
        unfold fitting
        rw [discover_asked_cons hhere, hhere, List.take_append_of_le_length (by omega)]
      refine ⟨1, by simp, ?_, ?_, .inr ?_⟩
      · rw [expandFrontier_full _ (by rw [hlen]; omega), hfitting]
        simp
      · intro i hi
        rw [Nat.lt_one_iff.1 hi]
        exact hzero
      · simpa [known, hhere] using hover
    · -- all the neighbors of `x` fit
      have hall : fitting maxNodes nodes (neighbors.entities x.key) = here := by
        unfold fitting
        rw [hhere, List.take_of_length_le (by omega)]
      have hknown : ∀ l, known neighbors nodes (x :: l) = known neighbors (nodes ++ here) l := by
        intro l
        unfold known
        rw [discover_asked_cons hhere, List.length_append, List.length_append]
        omega
      have hfitting : fitting maxNodes nodes (asked neighbors (x :: frontier)) =
          here ++ fitting maxNodes (nodes ++ here) (asked neighbors frontier) := by
        unfold fitting
        rw [discover_asked_cons hhere, List.take_append, List.take_of_length_le (by omega),
          List.length_append, Nat.sub_sub]
      rw [hall, hfitting]
      obtain ⟨j, hj, hrun, hbelow, hend⟩ :=
        ih (edges ++ neighbors.edges x.key) (nextFrontier ++ here.map GraphEntity.key)
          (by rw [List.length_append]; omega : (nodes ++ here).length ≤ maxNodes)
      refine ⟨j + 1, by simpa using hj, ?_, ?_, ?_⟩
      · rw [hrun]
        simp
      · intro i hi
        rcases i with _ | i
        · exact hzero
        · rw [List.take_succ_cons, hknown]
          exact hbelow i (by omega)
      · rw [List.take_succ_cons, hknown]
        simpa using hend

end

/-! ## The levels -/

/-- The search without a ceiling, cut off at `maxNodes`: the nodes it returns after `n` levels, and the
edges of the `j` nodes expanded before the ceiling. -/
structure Cut (neighbors : Neighbors Kind) (root : GraphEntity Kind) (maxNodes n j : Nat)
    (nodes : List (GraphEntity Kind)) (edges : List (GraphEdge Kind)) : Prop where
  nodes_eq : nodes = (Bfs.nodes GraphEntity.key neighbors.entities root n).take maxNodes
  le : j ≤ (Bfs.inner GraphEntity.key neighbors.entities root n).length
  edges_eq : edges =
    returned neighbors ((Bfs.inner GraphEntity.key neighbors.entities root n).take j)
  mem : ∀ x ∈ (Bfs.inner GraphEntity.key neighbors.entities root n).take j, x ∈ nodes
  below : ∀ i < j, known neighbors [root]
    ((Bfs.inner GraphEntity.key neighbors.entities root n).take i) < maxNodes
  ended : j = (Bfs.inner GraphEntity.key neighbors.entities root n).length ∨
    maxNodes ≤ known neighbors [root]
      ((Bfs.inner GraphEntity.key neighbors.entities root n).take j)

variable {root : GraphEntity Kind} {n j : Nat}

theorem known_inner (n : Nat) :
    known neighbors [root] (Bfs.inner GraphEntity.key neighbors.entities root n) =
      (Bfs.nodes GraphEntity.key neighbors.entities root n).length := by
  rw [Bfs.nodes_eq_discover, List.length_cons, Nat.add_comm]
  rfl

theorem known_append (l l' : List (GraphEntity Kind)) : known neighbors nodes (l ++ l') =
    known neighbors
      (nodes ++ Bfs.discover GraphEntity.key nodes (asked neighbors l)) l' := by
  unfold known asked
  rw [List.flatMap_append, Bfs.discover_append, List.length_append, List.length_append]
  omega

theorem known_le_append (l l' : List (GraphEntity Kind)) :
    known neighbors nodes l ≤ known neighbors nodes (l ++ l') := by
  unfold known asked
  rw [List.flatMap_append, Bfs.discover_append, List.length_append]
  omega

theorem known_take_mono (neighbors : Neighbors Kind) (nodes l : List (GraphEntity Kind)) {i j : Nat}
    (h : i ≤ j) :
    known neighbors nodes (l.take i) ≤ known neighbors nodes (l.take j) := by
  rw [← List.take_append_drop i (l.take j), List.take_take, Nat.min_eq_left h]
  exact known_le_append _ _

/-- Nothing is added at the ceiling. -/
theorem Cut.full (h : Cut neighbors root maxNodes n j nodes edges) (hfull : maxNodes ≤ nodes.length)
    (depth : Nat) : Cut neighbors root maxNodes (n + depth) j nodes edges := by
  induction depth with
  | zero => exact h
  | succ depth ih =>
    have hlen : maxNodes ≤ (Bfs.nodes GraphEntity.key neighbors.entities root (n + depth)).length := by
      have := hfull
      rw [ih.nodes_eq, List.length_take] at this
      omega
    have hinner : Bfs.inner GraphEntity.key neighbors.entities root (n + depth + 1) =
        Bfs.inner GraphEntity.key neighbors.entities root (n + depth) ++
          Bfs.frontier GraphEntity.key neighbors.entities root (n + depth) := Bfs.inner_succ _
    have htake : ∀ i ≤ j, (Bfs.inner GraphEntity.key neighbors.entities root (n + depth + 1)).take i =
        (Bfs.inner GraphEntity.key neighbors.entities root (n + depth)).take i := fun i hi => by
      rw [hinner, List.take_append_of_le_length (hi.trans ih.le)]
    rw [← Nat.add_assoc]
    refine ⟨?_, ?_, ?_, ?_, ?_, .inr ?_⟩
    · rw [Bfs.nodes_succ, List.take_append_of_le_length hlen, ← ih.nodes_eq]
    · rw [hinner, List.length_append]
      exact ih.le.trans (Nat.le_add_right _ _)
    · rw [htake j le_rfl]
      exact ih.edges_eq
    · rw [htake j le_rfl]
      exact ih.mem
    · intro i hi
      rw [htake i hi.le]
      exact ih.below i hi
    · rw [htake j le_rfl]
      rcases ih.ended with hj | hend
      · rwa [hj, List.take_length, known_inner]
      · exact hend

section
variable (hneighbors : ∀ kind id, service.getNeighbors kind id = .ok (neighbors kind id))

include hneighbors

/-- One level below the ceiling. -/
theorem Cut.level (h : Cut neighbors root maxNodes n j nodes edges) (hroom : nodes.length < maxNodes) :
    ∃ j' nodes' edges' nextFrontier',
      service.expandFrontier maxNodes
          ((Bfs.frontier GraphEntity.key neighbors.entities root n).map GraphEntity.key)
          ⟨nodes, edges, []⟩ = .ok ⟨nodes', edges', nextFrontier'⟩ ∧
      Cut neighbors root maxNodes (n + 1) j' nodes' edges' ∧
      (nodes'.length < maxNodes → nextFrontier' =
        (Bfs.frontier GraphEntity.key neighbors.entities root (n + 1)).map GraphEntity.key) := by
  have hall : nodes = Bfs.nodes GraphEntity.key neighbors.entities root n := by
    have := hroom
    rw [h.nodes_eq, List.length_take] at this
    rw [h.nodes_eq, List.take_of_length_le (by omega)]
  -- below the ceiling every inner node is expanded
  have hj : j = (Bfs.inner GraphEntity.key neighbors.entities root n).length := by
    refine h.ended.resolve_right fun hfull => ?_
    have := known_take_mono neighbors [root]
      (Bfs.inner GraphEntity.key neighbors.entities root n) h.le
    rw [List.take_length, known_inner, ← hall] at this
    omega
  obtain ⟨j', hj', hrun, hbelow, hend⟩ := expandFrontier_eq hneighbors edges []
    (Bfs.frontier GraphEntity.key neighbors.entities root n) hroom.le
  have hknown : ∀ l, known neighbors [root]
      (Bfs.inner GraphEntity.key neighbors.entities root n ++ l) = known neighbors nodes l := by
    intro l
    rw [known_append, hall, Bfs.nodes_eq_discover]
    rfl
  have hedges := h.edges_eq
  rw [hj, List.take_length] at hedges
  have hinner : Bfs.inner GraphEntity.key neighbors.entities root (n + 1) =
      Bfs.inner GraphEntity.key neighbors.entities root n ++
        Bfs.frontier GraphEntity.key neighbors.entities root n := Bfs.inner_succ n
  have htake : ∀ i, (Bfs.inner GraphEntity.key neighbors.entities root (n + 1)).take (j + i) =
      Bfs.inner GraphEntity.key neighbors.entities root n ++
        (Bfs.frontier GraphEntity.key neighbors.entities root n).take i := fun i => by
    rw [hinner, hj, List.take_length_add_append]
  have hfound : Bfs.frontier GraphEntity.key neighbors.entities root (n + 1) =
      Bfs.discover GraphEntity.key nodes
        (asked neighbors (Bfs.frontier GraphEntity.key neighbors.entities root n)) := by
    rw [Bfs.frontier_succ, hall]
  refine ⟨j + j', _, _, _, hrun, ⟨?_, ?_, ?_, ?_, ?_, ?_⟩, ?_⟩
  · rw [Bfs.nodes_succ, ← hall, hfound, List.take_append, List.take_of_length_le hroom.le]
    rfl
  · rw [hinner, List.length_append]
    omega
  · rw [htake, hedges, ← List.flatMap_append]
  · intro x hx
    refine List.mem_append_left _ ?_
    rw [hall]
    exact List.mem_of_mem_take hx
  · intro i hi
    rcases lt_or_ge i j with hlt | hge
    · have hle := known_take_mono neighbors [root]
        (Bfs.inner GraphEntity.key neighbors.entities root (n + 1)) hlt.le
      have hfull := htake 0
      rw [Nat.add_zero, List.take_zero, List.append_nil] at hfull
      rw [hfull, known_inner, ← hall] at hle
      omega
    · obtain ⟨i, rfl⟩ := Nat.exists_eq_add_of_le hge
      rw [htake, hknown]
      exact hbelow i (by omega)
  · rw [htake, hknown, hinner, List.length_append]
    rcases hend with hend | hend
    · exact .inl (by omega)
    · exact .inr hend
  · intro hfits
    rw [length_fitting hroom.le] at hfits
    rw [List.nil_append, hfound]
    unfold fitting
    rw [List.take_of_length_le (by omega)]

theorem expandLevels_eq (depth : Nat) (h : Cut neighbors root maxNodes n j nodes edges)
    (nextFrontier : List (Kind × String)) {frontier : List (Kind × String)} (hfrontier : nodes.length < maxNodes → frontier =
      (Bfs.frontier GraphEntity.key neighbors.entities root n).map GraphEntity.key) :
    ∃ j' s, service.expandLevels maxNodes depth frontier ⟨nodes, edges, nextFrontier⟩ = .ok s ∧
      Cut neighbors root maxNodes (n + depth) j' s.nodes s.edges := by
  induction depth generalizing n j nodes edges frontier nextFrontier with
  | zero => exact ⟨j, _, rfl, h⟩
  | succ depth ih =>
    unfold expandLevels
    rcases le_or_gt maxNodes nodes.length with hfull | hroom
    · rw [if_pos hfull]
      exact ⟨j, _, rfl, h.full hfull (depth + 1)⟩
    · rw [if_neg (not_le.2 hroom), hfrontier hroom]
      obtain ⟨j', nodes', edges', nextFrontier', hrun, hcut, hnext⟩ := h.level hneighbors hroom
      obtain ⟨j'', s, hs, hfinal⟩ := ih hcut nextFrontier' hnext
      refine ⟨j'', s, ?_, ?_⟩
      · show (service.expandFrontier _ _ _ >>= _) = _
        rw [hrun]
        exact hs
      · rwa [show n + (depth + 1) = n + 1 + depth by omega]

/-- `get_subgraph` is the search cut off at `maxNodes`. -/
theorem getSubgraph_eq {kind : Kind} {entityId : String}
    (hroot : service.getEntity kind entityId = .ok (some root)) (depth : Nat) (hmax : 1 ≤ maxNodes) :
    ∃ j nodes edges, service.getSubgraph kind entityId depth maxNodes = .ok (nodes, edges) ∧
      Cut neighbors root maxNodes depth j nodes edges := by
  have hstart : Cut neighbors root maxNodes 0 0 [root] [] := by
    refine ⟨?_, le_rfl, rfl, by simp, by simp, .inl rfl⟩
    rw [Bfs.nodes_zero, List.take_of_length_le hmax]
  have hfrontier : [root].length < maxNodes → [root.key] =
      (Bfs.frontier GraphEntity.key neighbors.entities root 0).map GraphEntity.key := fun _ => rfl
  obtain ⟨j, s, hs, hcut⟩ := expandLevels_eq hneighbors depth hstart [] hfrontier
  rw [Nat.zero_add] at hcut
  refine ⟨j, s.nodes, s.edges, ?_, hcut⟩
  unfold getSubgraph
  rw [hroot]
  show (service.expandLevels _ _ _ _ >>= _) = _
  rw [hs]
  rfl

end

/-! ## The subgraph -/

/-- The nodes a search without a ceiling asks for their neighbors, in the order it asks. -/
def order (neighbors : Neighbors Kind) (root : GraphEntity Kind) (depth : Nat) :
    List (GraphEntity Kind) :=
  Bfs.inner GraphEntity.key neighbors.entities root depth

/-- The number of nodes seen after the first `i` of these expansions. -/
def seen (neighbors : Neighbors Kind) (root : GraphEntity Kind) (depth i : Nat) : Nat :=
  (insert root.key
    ((asked neighbors ((order neighbors root depth).take i)).map GraphEntity.key).toFinset).card

theorem known_eq_card (l : List (GraphEntity Kind)) : known neighbors [root] l =
    (insert root.key ((asked neighbors l).map GraphEntity.key).toFinset).card := by
  have hnodup : (([root] ++ Bfs.discover GraphEntity.key [root] (asked neighbors l)).map
      GraphEntity.key).Nodup := Bfs.nodup_discover (List.nodup_singleton _)
  have hset : (([root] ++ Bfs.discover GraphEntity.key [root] (asked neighbors l)).map
      GraphEntity.key).toFinset =
        insert root.key ((asked neighbors l).map GraphEntity.key).toFinset := by
    ext k
    rw [List.mem_toFinset, Bfs.mem_keys_discover, Finset.mem_insert, List.mem_toFinset]
    simp
  rw [← hset, List.toFinset_card_of_nodup hnodup, List.length_map, List.length_append]
  rfl

theorem Cut.root_mem (h : Cut neighbors root maxNodes n j nodes edges) (hmax : 1 ≤ maxNodes) :
    root ∈ nodes := by
  obtain ⟨rest, hrest⟩ : ∃ rest, Bfs.nodes GraphEntity.key neighbors.entities root n = root :: rest :=
    Bfs.head_nodes n
  obtain ⟨room, hroom⟩ : ∃ room, maxNodes = room + 1 := ⟨maxNodes - 1, by omega⟩
  rw [h.nodes_eq, hrest, hroom, List.take_succ_cons]
  exact .head _

theorem Cut.length_le (h : Cut neighbors root maxNodes n j nodes edges) :
    nodes.length ≤ maxNodes := by
  rw [h.nodes_eq]
  exact List.length_take_le _ _

/-- The nodes known from the expansions below the ceiling are returned when they fit. -/
theorem Cut.asked_mem (h : Cut neighbors root maxNodes n j nodes edges)
    (hfits : known neighbors [root]
      ((Bfs.inner GraphEntity.key neighbors.entities root n).take j) ≤ maxNodes)
    {x : GraphEntity Kind}
    (hx : x ∈ (Bfs.inner GraphEntity.key neighbors.entities root n).take j) {y : GraphEntity Kind}
    (hy : y ∈ neighbors.entities x.key) : y.key ∈ nodes.map GraphEntity.key := by
  let expanded := (Bfs.inner GraphEntity.key neighbors.entities root n).take j
  have hpre : [root] ++ Bfs.discover GraphEntity.key [root] (asked neighbors expanded) <+:
      Bfs.nodes GraphEntity.key neighbors.entities root n := by
    have hsplit := List.take_append_drop j (Bfs.inner GraphEntity.key neighbors.entities root n)
    rw [Bfs.nodes_eq_discover, ← hsplit, List.flatMap_append, Bfs.discover_append, List.singleton_append,
      ← List.cons_append]
    exact List.prefix_append _ _
  have htake : [root] ++ Bfs.discover GraphEntity.key [root] (asked neighbors expanded) <+: nodes := by
    rw [h.nodes_eq]
    refine List.prefix_take_iff.2 ⟨hpre, ?_⟩
    rw [List.length_append]
    exact hfits
  refine (htake.sublist.map GraphEntity.key).subset (Bfs.mem_keys_discover.2 (.inr ?_))
  exact List.mem_map_of_mem (List.mem_flatMap.2 ⟨x, hx, hy⟩)

/-- The returned edges stay among the nodes iff the nodes known from the expansions fit. -/
theorem Cut.closed_iff (h : Cut neighbors root maxNodes n j nodes edges) (hmax : 1 ≤ maxNodes)
    (hconnects : ∀ kind id, ∀ p ∈ neighbors kind id, p.1.Connects (kind, id) p.2.key) :
    (∀ edge ∈ edges, edge.source ∈ nodes.map GraphEntity.key ∧
        edge.target ∈ nodes.map GraphEntity.key) ↔
      known neighbors [root]
        ((Bfs.inner GraphEntity.key neighbors.entities root n).take j) ≤ maxNodes := by
  constructor
  · intro hclosed
    rw [known_eq_card]
    have hsub : insert root.key ((asked neighbors
        ((Bfs.inner GraphEntity.key neighbors.entities root n).take j)).map
          GraphEntity.key).toFinset ⊆ (nodes.map GraphEntity.key).toFinset := by
      intro k hk
      rw [Finset.mem_insert, List.mem_toFinset] at hk
      rw [List.mem_toFinset]
      rcases hk with rfl | hk
      · exact List.mem_map_of_mem (h.root_mem hmax)
      · obtain ⟨y, hy, rfl⟩ := List.mem_map.1 hk
        obtain ⟨x, hx, hy⟩ := List.mem_flatMap.1 hy
        obtain ⟨p, hp, rfl⟩ := List.mem_map.1 hy
        have hedge : p.1 ∈ edges := by
          rw [h.edges_eq]
          exact List.mem_flatMap.2 ⟨x, hx, List.mem_map_of_mem hp⟩
        obtain ⟨hsource, htarget⟩ := hclosed p.1 hedge
        rcases hconnects _ _ p hp with ⟨-, he⟩ | ⟨he, -⟩
        · exact he ▸ htarget
        · exact he ▸ hsource
    calc _ ≤ (nodes.map GraphEntity.key).toFinset.card := Finset.card_le_card hsub
      _ ≤ (nodes.map GraphEntity.key).length := List.toFinset_card_le _
      _ = nodes.length := List.length_map _
      _ ≤ maxNodes := h.length_le
  · intro hfits edge hedge
    rw [h.edges_eq] at hedge
    obtain ⟨x, hx, hedge⟩ := List.mem_flatMap.1 hedge
    obtain ⟨p, hp, rfl⟩ := List.mem_map.1 hedge
    have hsource : x.key ∈ nodes.map GraphEntity.key := List.mem_map_of_mem (h.mem x hx)
    have htarget := h.asked_mem hfits hx (List.mem_map_of_mem hp)
    rcases hconnects _ _ p hp with ⟨he, he'⟩ | ⟨he, he'⟩
    · exact ⟨he.symm ▸ hsource, he'.symm ▸ htarget⟩
    · exact ⟨he.symm ▸ htarget, he'.symm ▸ hsource⟩

section
variable {kind : Kind} {entityId : String}
  (hneighbors : ∀ kind id, service.getNeighbors kind id = .ok (neighbors kind id))
  (hroot : service.getEntity kind entityId = .ok (some root))

include hneighbors hroot

/-- **Bounded expansion**: distinct nodes, the root among them, all within `depth` hops; and all those
within `depth` hops when fewer than `maxNodes` are returned. -/
theorem subgraph_exact (depth : Nat) (hmax : 1 ≤ maxNodes) :
    ∃ nodes edges, service.getSubgraph kind entityId depth maxNodes = .ok (nodes, edges) ∧
      (nodes.map GraphEntity.key).Nodup ∧ nodes.length ≤ maxNodes ∧ root ∈ nodes ∧
      (∀ x ∈ nodes, Within neighbors.Step depth root.key x.key) ∧
      (nodes.length < maxNodes →
        ∀ k, k ∈ nodes.map GraphEntity.key ↔ Within neighbors.Step depth root.key k) := by
  obtain ⟨j, nodes, edges, hrun, hcut⟩ := getSubgraph_eq hneighbors hroot depth hmax
  have hmem : ∀ k, k ∈ (Bfs.nodes GraphEntity.key neighbors.entities root depth).map GraphEntity.key ↔
      Within neighbors.Step depth root.key k := fun k => Bfs.mem_nodes fun a b => mem_entities
  have hpre : nodes <+: Bfs.nodes GraphEntity.key neighbors.entities root depth := by
    rw [hcut.nodes_eq]
    exact List.take_prefix _ _
  refine ⟨nodes, edges, hrun, ?_, ?_, ?_, ?_, ?_⟩
  · exact (Bfs.nodup_nodes depth).sublist (hpre.sublist.map _)
  · exact hcut.length_le
  · exact hcut.root_mem hmax
  · intro x hx
    exact (hmem x.key).1 (List.mem_map_of_mem (hpre.subset hx))
  · intro hlt k
    have := hlt
    rw [hcut.nodes_eq, List.length_take] at this
    rw [hcut.nodes_eq, List.take_of_length_le (by omega)]
    exact hmem k

/-- **Closure**: with edges that connect the node with its neighbor, every returned edge joins returned
nodes iff no expansion takes the number of nodes seen from below `maxNodes` to above it. -/
theorem subgraph_closed_iff
    (hconnects : ∀ kind id, ∀ p ∈ neighbors kind id, p.1.Connects (kind, id) p.2.key) (depth : Nat)
    (hmax : 1 ≤ maxNodes) :
    ∃ nodes edges, service.getSubgraph kind entityId depth maxNodes = .ok (nodes, edges) ∧
      ((∀ edge ∈ edges, edge.source ∈ nodes.map GraphEntity.key ∧
          edge.target ∈ nodes.map GraphEntity.key) ↔
        ∀ i < (order neighbors root depth).length,
          ¬(seen neighbors root depth i < maxNodes ∧ maxNodes < seen neighbors root depth (i + 1))) := by
  obtain ⟨j, nodes, edges, hrun, hcut⟩ := getSubgraph_eq hneighbors hroot depth hmax
  refine ⟨nodes, edges, hrun, ?_⟩
  have hseen : ∀ i, seen neighbors root depth i = known neighbors [root]
      ((Bfs.inner GraphEntity.key neighbors.entities root depth).take i) := fun i =>
    (known_eq_card _).symm
  have hmono : ∀ i i', i ≤ i' → seen neighbors root depth i ≤ seen neighbors root depth i' :=
    fun i i' hle => by
      rw [hseen, hseen]
      exact known_take_mono _ _ _ hle
  have hbelow : ∀ i < j, seen neighbors root depth i < maxNodes := fun i hi => by
    rw [hseen]
    exact hcut.below i hi
  rw [hcut.closed_iff hmax hconnects, ← hseen]
  constructor
  · rintro hfits i hi ⟨hlt, hgt⟩
    rcases Nat.lt_or_ge i j with hij | hij
    · have := hmono (i + 1) j hij
      omega
    · -- past the last expansion the nodes seen are at the ceiling already
      have hfull : maxNodes ≤ seen neighbors root depth j := by
        rw [hseen]
        refine hcut.ended.resolve_left fun hj => ?_
        rw [order] at hi
        omega
      have := hmono j i hij
      omega
  · intro hnone
    rcases j with _ | j
    · simpa [seen] using hmax
    · have hj : j < (order neighbors root depth).length := hcut.le
      have := hnone j hj
      have := hbelow j (by omega)
      omega

end

/-- A zone with two sensors. -/
def twoSensors : Neighbors EntityKind
  | .zone, "z1" => [
    (⟨.zone, "z1", .contains, .sensor, "s1"⟩, ⟨.sensor, "s1"⟩),
    (⟨.zone, "z1", .contains, .sensor, "s2"⟩, ⟨.sensor, "s2"⟩)]
  | _, _ => []

theorem twoSensors_connects :
    ∀ kind id, ∀ p ∈ twoSensors kind id, p.1.Connects (kind, id) p.2.key := by
  intro kind id p hp
  unfold twoSensors at hp
  split at hp
  · simp only [List.mem_cons, List.not_mem_nil, or_false] at hp
    rcases hp with rfl | rfl <;> exact .inl ⟨rfl, rfl⟩
  · cases hp

def zoneService : GraphService EntityKind where
  getEntity kind id := pure (some ⟨kind, id⟩)
  getNeighbors kind id := pure (twoSensors kind id)

theorem zoneService_neighbors :
    ∀ kind id, zoneService.getNeighbors kind id = .ok (twoSensors kind id) := fun _ _ => rfl

theorem zoneService_root : zoneService.getEntity .zone "z1" = .ok (some ⟨.zone, "z1"⟩) := rfl

/-- All three nodes fit. -/
theorem subgraph_exact_three : ∃ nodes edges,
    zoneService.getSubgraph .zone "z1" 1 4 = .ok (nodes, edges) ∧
      ∀ k, k ∈ nodes.map GraphEntity.key ↔ Within twoSensors.Step 1 (.zone, "z1") k := by
  obtain ⟨nodes, edges, hrun, -, -, -, -, hall⟩ := subgraph_exact zoneService_neighbors
    zoneService_root 1 (by decide : 1 ≤ 4)
  have hlen : (zoneService.getSubgraph .zone "z1" 1 4).toOption.map (·.1.length) = some 3 := by
    decide +kernel
  rw [hrun] at hlen
  have hlen : nodes.length = 3 := Option.some.inj hlen
  exact ⟨nodes, edges, hrun, hall (by omega)⟩

theorem subgraph_closed_three : ∃ nodes edges,
    zoneService.getSubgraph .zone "z1" 1 3 = .ok (nodes, edges) ∧
      ∀ edge ∈ edges, edge.source ∈ nodes.map GraphEntity.key ∧
        edge.target ∈ nodes.map GraphEntity.key := by
  obtain ⟨nodes, edges, hrun, hiff⟩ := subgraph_closed_iff zoneService_neighbors zoneService_root
    twoSensors_connects 1 (by decide : 1 ≤ 3)
  exact ⟨nodes, edges, hrun, hiff.2 (by decide +kernel)⟩

/-- Two nodes: the edge to the second sensor is returned, the sensor is not. -/
theorem edge_without_node :
    (∀ kind id, ∀ p ∈ twoSensors kind id, p.1.Connects (kind, id) p.2.key) ∧
      ∃ nodes edges, zoneService.getSubgraph .zone "z1" 1 2 = .ok (nodes, edges) ∧
        ∃ edge ∈ edges, edge.target ∉ nodes.map GraphEntity.key := by
  refine ⟨twoSensors_connects, _, _, rfl, ⟨.zone, "z1", .contains, .sensor, "s2"⟩, ?_, ?_⟩
  · decide +kernel
  · decide +kernel

end GraphService

end KnowledgeGraph
