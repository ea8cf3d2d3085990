import IndustrialSafety.KnowledgeGraph.Proof.Subgraph

/-!
# The trace of a subgraph

The edges that `get_subgraph` returns are the answers of the nodes it expanded, and it expands no node
twice (`getSubgraph_traced`). The service may raise on other nodes.
-/

namespace KnowledgeGraph

open Py

namespace GraphService

variable {Kind : Type} [DecidableEq Kind] {service : GraphService Kind} {P : GraphEntity Kind → Prop}

/-- The invariant of the expansion: the edges are those of the expanded nodes, and no node that is
expanded or still to be is so twice. -/
structure Traced (service : GraphService Kind) (P : GraphEntity Kind → Prop)
    (expanded pending : List (Kind × String)) (s : Expansion Kind) : Prop where
  answers : ∃ ls, List.Forall₂ (fun k l => service.getNeighbors k.1 k.2 = .ok l) expanded ls ∧
    s.edges = ls.flatten.map Prod.fst
  distinct : (expanded ++ pending).Nodup
  kept : expanded ++ pending ⊆ s.nodes.map GraphEntity.key
  nodes : ∀ node ∈ s.nodes, P node

omit [DecidableEq Kind] in
theorem Traced.drop (first : List (Kind × String)) {expanded pending : List (Kind × String)}
    {s : Expansion Kind}
    (h : Traced service P expanded (first ++ pending) s) : Traced service P expanded pending s := by
  have hsub : (expanded ++ pending).Sublist (expanded ++ (first ++ pending)) :=
    (List.sublist_append_right first pending).append_left expanded
  exact ⟨h.answers, h.distinct.sublist hsub, fun k hk => h.kept (hsub.subset hk), h.nodes⟩

/-- What a neighbor adds. -/
structure Grows (known : List (Kind × String)) (edges : List (GraphEdge Kind))
    (P : GraphEntity Kind → Prop) (s : Expansion Kind) : Prop where
  edges : s.edges = edges
  distinct : (known ++ s.nextFrontier).Nodup
  kept : known ++ s.nextFrontier ⊆ s.nodes.map GraphEntity.key
  nodes : ∀ node ∈ s.nodes, P node

theorem Grows.neighbor (maxNodes : Nat) {known : List (Kind × String)} {edges : List (GraphEdge Kind)}
    {s : Expansion Kind} (h : Grows known edges P s) {p : GraphEdge Kind × GraphEntity Kind}
    (hp : P p.2) : Grows known (edges ++ [p.1]) P (addNeighbor maxNodes s p) := by
  obtain ⟨nodes, _, nextFrontier⟩ := s
  obtain ⟨rfl, hdistinct, hkept, hnodes⟩ := h
  unfold addNeighbor
  dsimp only
  split
  · exact ⟨rfl, hdistinct, hkept, hnodes⟩
  split
  · exact ⟨rfl, hdistinct, hkept, hnodes⟩
  rename_i hnew _
  refine ⟨rfl, ?_, ?_, ?_⟩
  · rw [← List.append_assoc]
    refine List.Nodup.append hdistinct (List.nodup_singleton _) (List.disjoint_singleton.2 ?_)
    exact fun hmem => hnew (hkept hmem)
  · rw [← List.append_assoc, List.map_append]
    exact List.append_subset.2 ⟨fun k hk => List.mem_append_left _ (hkept hk),
      fun k hk => List.mem_append_right _ hk⟩
  · intro node hnode
    rcases List.mem_append.1 hnode with hnode | hnode
    · exact hnodes node hnode
    · exact List.mem_singleton.1 hnode ▸ hp

theorem Grows.neighborhood (maxNodes : Nat) {known : List (Kind × String)} {edges : List (GraphEdge Kind)}
    {s : Expansion Kind} (h : Grows known edges P s)
    {found : List (GraphEdge Kind × GraphEntity Kind)} (hfound : ∀ p ∈ found, P p.2) :
    Grows known (edges ++ found.map Prod.fst) P (found.foldl (addNeighbor maxNodes) s) := by
  induction found generalizing s edges with
  | nil =>
    rw [List.map_nil, List.append_nil]
    exact h
  | cons p found ih =>
    have := ih (h.neighbor maxNodes (hfound p (.head _))) fun q hq => hfound q (.tail _ hq)
    rwa [List.append_assoc] at this

section
variable {maxNodes : Nat} (hneighbors : ∀ kind id l, service.getNeighbors kind id = .ok l → ∀ p ∈ l, P p.2)

include hneighbors

theorem Traced.frontier {expanded frontier : List (Kind × String)} {s s' : Expansion Kind}
    (h : Traced service P expanded (frontier ++ s.nextFrontier) s)
    (hrun : service.expandFrontier maxNodes frontier s = .ok s') :
    ∃ expanded', Traced service P expanded' s'.nextFrontier s' := by
  induction frontier generalizing s expanded with
  | nil =>
    cases hrun
    exact ⟨expanded, h⟩
  | cons k frontier ih =>
    obtain ⟨kind, id⟩ := k
    unfold expandFrontier at hrun
    split at hrun
    · cases hrun
      exact ⟨expanded, h.drop _⟩
    · obtain ⟨l, hl, hrun⟩ := Except.bind_eq_ok.1 hrun
      have hgrows : Grows (expanded ++ (kind, id) :: frontier) s.edges P s :=
        ⟨rfl, by simpa using h.distinct, by simpa using h.kept, h.nodes⟩
      have hmore := hgrows.neighborhood maxNodes (hneighbors kind id l hl)
      have hanswers : ∃ ls, List.Forall₂ (fun k l => service.getNeighbors k.1 k.2 = .ok l)
          (expanded ++ [(kind, id)]) ls ∧
            (l.foldl (addNeighbor maxNodes) s).edges = ls.flatten.map Prod.fst := by
        obtain ⟨ls, hls, hedges⟩ := h.answers
        refine ⟨ls ++ [l], List.rel_append hls (.cons hl .nil), ?_⟩
        rw [hmore.edges, hedges]
        simp
      exact ih ⟨hanswers, by simpa using hmore.distinct, by simpa using hmore.kept, hmore.nodes⟩ hrun

theorem Traced.levels {depth : Nat} {expanded frontier : List (Kind × String)}
    {s s' : Expansion Kind} (h : Traced service P expanded frontier s)
    (hrun : service.expandLevels maxNodes depth frontier s = .ok s') :
    ∃ expanded', Traced service P expanded' [] s' := by
  induction depth generalizing frontier expanded s with
  | zero =>
    cases hrun
    exact ⟨expanded, Traced.drop frontier (by simpa using h)⟩
  | succ depth ih =>
    unfold expandLevels at hrun
    split at hrun
    · cases hrun
      exact ⟨expanded, Traced.drop frontier (by simpa using h)⟩
    · obtain ⟨t, ht, hrun⟩ := Except.bind_eq_ok.1 hrun
      have hstart : Traced service P expanded (frontier ++ []) { s with nextFrontier := [] } :=
        ⟨h.answers, by simpa using h.distinct, by simpa using h.kept, h.nodes⟩
      obtain ⟨expanded', htraced⟩ := Traced.frontier hneighbors hstart ht
      exact ih htraced hrun

/-- The edges of a subgraph are the answers of some of its nodes, each asked once. -/
theorem getSubgraph_traced (hroot : ∀ kind id root, service.getEntity kind id = .ok (some root) → P root)
    {kind : Kind} {entityId : String} {depth : Nat} {nodes : List (GraphEntity Kind)}
    {edges : List (GraphEdge Kind)}
    (hrun : service.getSubgraph kind entityId depth maxNodes = .ok (nodes, edges)) :
    ∃ expanded nextFrontier, Traced service P expanded [] ⟨nodes, edges, nextFrontier⟩ := by
  obtain ⟨root, hget, hrun⟩ := Except.bind_eq_ok.1 hrun
  cases root with
  | none =>
    cases hrun
    exact ⟨[], [], ⟨[], .nil, rfl⟩, List.nodup_nil, List.nil_subset _, nofun⟩
  | some root =>
    obtain ⟨s, hs, hrun⟩ := Except.bind_eq_ok.1 hrun
    cases hrun
    have hstart : Traced service P [] [root.key] ⟨[root], [], []⟩ :=
      ⟨⟨[], .nil, rfl⟩, List.nodup_singleton _, List.Subset.refl _,
        by simpa using hroot kind entityId root hget⟩
    obtain ⟨expanded, htraced⟩ := hstart.levels hneighbors hs
    exact ⟨expanded, s.nextFrontier, htraced⟩

end

end GraphService

end KnowledgeGraph
