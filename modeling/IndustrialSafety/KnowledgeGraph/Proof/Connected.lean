import IndustrialSafety.KnowledgeGraph.Proof.Subgraph

/-!
# The subgraph is connected

A ceiling cuts `get_subgraph` off in the middle of an expansion, and edges to nodes that no longer fit are
returned all the same. Still every returned node is joined to the root by returned edges between returned
nodes (`getSubgraph_connected`): the edge that discovers a node is returned with it, and it comes from a
node that was returned before (`Rooted`).
-/

namespace KnowledgeGraph

open Py

variable {Kind : Type} [DecidableEq Kind]

/-- A step of the returned graph, in either direction of an edge whose ends are returned. -/
def Joined (nodes : List (GraphEntity Kind)) (edges : List (GraphEdge Kind)) (a : Kind × String)
    (edge : GraphEdge Kind) (b : Kind × String) : Prop :=
  edge ∈ edges ∧ edge.Connects a b ∧ a ∈ nodes.map GraphEntity.key ∧ b ∈ nodes.map GraphEntity.key

namespace GraphService

variable {service : GraphService Kind} {maxNodes : Nat} {root : Kind × String}

/-- The invariant of the expansion: the kept nodes are joined to the root, and those to expand are kept. -/
structure Rooted (root : Kind × String) (s : Expansion Kind) : Prop where
  joined : ∀ k ∈ s.nodes.map GraphEntity.key, ∃ es, Walk (Joined s.nodes s.edges) root es k
  kept : ∀ k ∈ s.nextFrontier, k ∈ s.nodes.map GraphEntity.key

omit [DecidableEq Kind] in
theorem Joined.mono {nodes nodes' : List (GraphEntity Kind)} {edges edges' : List (GraphEdge Kind)}
    (hnodes : nodes ⊆ nodes') (hedges : edges ⊆ edges') (a : Kind × String) (edge : GraphEdge Kind)
    (b : Kind × String) (h : Joined nodes edges a edge b) : Joined nodes' edges' a edge b := by
  obtain ⟨hedge, hconnects, ha, hb⟩ := h
  have hkeys := List.map_subset GraphEntity.key hnodes
  exact ⟨hedges hedge, hconnects, hkeys ha, hkeys hb⟩

theorem addNeighbor_nodes_subset (maxNodes : Nat) (s : Expansion Kind) (p : GraphEdge Kind × GraphEntity Kind) :
    s.nodes ⊆ (addNeighbor maxNodes s p).nodes := by
  unfold addNeighbor
  dsimp only
  split
  · exact List.Subset.refl _
  · split
    · exact List.Subset.refl _
    · exact List.subset_append_left _ _

/-- A neighbor of a kept node is kept with the edge to it. -/
theorem Rooted.neighbor (maxNodes : Nat) {s : Expansion Kind} (h : Rooted root s) {a : Kind × String}
    (ha : a ∈ s.nodes.map GraphEntity.key) {p : GraphEdge Kind × GraphEntity Kind}
    (hp : p.1.Connects a p.2.key) : Rooted root (addNeighbor maxNodes s p) := by
  obtain ⟨nodes, edges, nextFrontier⟩ := s
  have hmore : Rooted root ⟨nodes, edges ++ [p.1], nextFrontier⟩ :=
    ⟨fun k hk => (h.joined k hk).imp fun es =>
      Walk.mono (Joined.mono (List.Subset.refl _) (List.subset_append_left _ _)), h.kept⟩
  unfold addNeighbor
  dsimp only
  split
  · exact hmore
  split
  · exact hmore
  have hgrow : ∀ a e b, Joined nodes (edges ++ [p.1]) a e b →
      Joined (nodes ++ [p.2]) (edges ++ [p.1]) a e b :=
    Joined.mono (List.subset_append_left _ _) (List.Subset.refl _)
  have hold : ∀ k ∈ nodes.map GraphEntity.key, k ∈ (nodes ++ [p.2]).map GraphEntity.key := fun k hk => by
    rw [List.map_append]
    exact List.mem_append_left _ hk
  have hnew : p.2.key ∈ (nodes ++ [p.2]).map GraphEntity.key := by simp
  refine ⟨fun k hk => ?_, fun k hk => ?_⟩
  · dsimp only at hk ⊢
    rw [List.map_append, List.mem_append] at hk
    rcases hk with hk | hk
    · exact (hmore.joined k hk).imp fun es => Walk.mono hgrow
    · obtain rfl := List.mem_singleton.1 hk
      obtain ⟨es, hes⟩ := hmore.joined a ha
      exact ⟨es ++ [p.1], (hes.mono hgrow).snoc ⟨by simp, hp, hold a ha, hnew⟩⟩
  · dsimp only at hk ⊢
    rcases List.mem_append.1 hk with hk | hk
    · exact hold k (h.kept k hk)
    · exact List.mem_singleton.1 hk ▸ hnew

theorem Rooted.neighborhood (maxNodes : Nat) {s : Expansion Kind} (h : Rooted root s) {a : Kind × String}
    (ha : a ∈ s.nodes.map GraphEntity.key) {found : List (GraphEdge Kind × GraphEntity Kind)}
    (hfound : ∀ p ∈ found, p.1.Connects a p.2.key) :
    Rooted root (found.foldl (addNeighbor maxNodes) s) ∧
      s.nodes ⊆ (found.foldl (addNeighbor maxNodes) s).nodes := by
  induction found generalizing s with
  | nil => exact ⟨h, List.Subset.refl _⟩
  | cons p found ih =>
    have hsub := addNeighbor_nodes_subset maxNodes s p
    obtain ⟨hrooted, hgrows⟩ := ih (h.neighbor maxNodes ha (hfound p (.head _)))
      (List.map_subset _ hsub ha) fun q hq => hfound q (.tail _ hq)
    exact ⟨hrooted, List.Subset.trans hsub hgrows⟩

section
variable (hconnects : ∀ kind id l, service.getNeighbors kind id = .ok l →
  ∀ p ∈ l, p.1.Connects (kind, id) p.2.key)

include hconnects

theorem Rooted.frontier {frontier : List (Kind × String)} {s s' : Expansion Kind}
    (h : Rooted root s) (hfrontier : ∀ k ∈ frontier, k ∈ s.nodes.map GraphEntity.key)
    (hrun : service.expandFrontier maxNodes frontier s = .ok s') : Rooted root s' := by
  induction frontier generalizing s with
  | nil =>
    cases hrun
    exact h
  | cons a frontier ih =>
    obtain ⟨kind, id⟩ := a
    unfold expandFrontier at hrun
    split at hrun
    · cases hrun
      exact h
    · obtain ⟨found, hfound, hrun⟩ := Except.bind_eq_ok.1 hrun
      obtain ⟨hrooted, hgrows⟩ := h.neighborhood maxNodes (hfrontier _ (.head _))
        (hconnects kind id found hfound)
      exact ih hrooted (fun k hk => List.map_subset _ hgrows (hfrontier k (.tail _ hk))) hrun

theorem Rooted.levels {depth : Nat} {frontier : List (Kind × String)} {s s' : Expansion Kind}
    (h : Rooted root s) (hfrontier : ∀ k ∈ frontier, k ∈ s.nodes.map GraphEntity.key)
    (hrun : service.expandLevels maxNodes depth frontier s = .ok s') : Rooted root s' := by
  induction depth generalizing frontier s with
  | zero =>
    cases hrun
    exact h
  | succ depth ih =>
    unfold expandLevels at hrun
    split at hrun
    · cases hrun
      exact h
    · obtain ⟨t, ht, hrun⟩ := Except.bind_eq_ok.1 hrun
      have hstart : Rooted root { s with nextFrontier := [] } := ⟨h.joined, by simp⟩
      have hrooted := hstart.frontier hconnects hfrontier ht
      exact ih hrooted hrooted.kept hrun

/-- Every returned node is joined to the root inside the returned graph. -/
theorem getSubgraph_connected {kind : Kind} {entityId : String} {depth : Nat}
    {entity : GraphEntity Kind} (hroot : service.getEntity kind entityId = .ok (some entity))
    {nodes : List (GraphEntity Kind)} {edges : List (GraphEdge Kind)}
    (hrun : service.getSubgraph kind entityId depth maxNodes = .ok (nodes, edges)) :
    ∀ k ∈ nodes.map GraphEntity.key, ∃ es, Walk (Joined nodes edges) entity.key es k := by
  unfold getSubgraph at hrun
  rw [hroot] at hrun
  change (service.expandLevels _ _ _ _ >>= _) = _ at hrun
  obtain ⟨s, hs, hrun⟩ := Except.bind_eq_ok.1 hrun
  cases hrun
  have hstart : Rooted entity.key ⟨[entity], [], []⟩ := by
    refine ⟨fun k hk => ?_, by simp⟩
    obtain rfl : k = entity.key := by simpa using hk
    exact ⟨[], .nil _⟩
  exact (hstart.levels hconnects (by simp) hs).joined

end

end GraphService

end KnowledgeGraph
