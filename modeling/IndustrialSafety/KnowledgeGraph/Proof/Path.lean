import IndustrialSafety.KnowledgeGraph.Traversal
import IndustrialSafety.Lib.Bfs
import IndustrialSafety.Lib.Result

/-!
# Shortest paths

`get_path` over any graph: the path it returns is a shortest walk, `none` means that no walk is short
enough, and it raises only what `get_neighbors` raises at a node it reaches (`getPath_spec`). The
invariant of a level is `Level`: what is visited, what is found, and a shortest walk back from each
visited node.
-/

namespace KnowledgeGraph.GraphService

open Py

variable {Kind : Type} (service : GraphService Kind)

/-- One `get_neighbors` step. -/
def Step (a : Kind × String) (edge : GraphEdge Kind) (b : Kind × String) : Prop :=
  ∃ neighbors entity, service.getNeighbors a.1 a.2 = .ok neighbors ∧ (edge, entity) ∈ neighbors ∧
    entity.key = b

variable [DecidableEq Kind] {service} {start goal : Kind × String}

/-! ## The walk back -/

section
variable {parent : List ((Kind × String) × (Kind × String) × GraphEdge Kind)}
  {key prev cursor : Kind × String} {edge : GraphEdge Kind}

theorem walkBack_start : walkBack start parent start = .ok [] := by
  cases parent <;> simp [walkBack]

/-- A new entry is not on the way back from the old keys. -/
theorem walkBack_cons_of_ne (h : cursor ≠ key) :
    walkBack start ((key, prev, edge) :: parent) cursor = walkBack start parent cursor := by
  by_cases hstart : cursor = start
  · rw [hstart, walkBack_start, walkBack_start]
  · conv_lhs => unfold walkBack
    rw [if_neg hstart, if_neg h.symm]

theorem walkBack_cons_self (hstart : key ≠ start) {edges : List (GraphEdge Kind)}
    (h : walkBack start parent prev = .ok edges) :
    walkBack start ((key, prev, edge) :: parent) key = .ok (edge :: edges) := by
  unfold walkBack
  rw [if_neg hstart, if_pos rfl, h]
  rfl

end

/-! ## One level -/

/-- The search in its `n`-th level: `Found` are the keys its frontier has led to so far. -/
structure Level (service : GraphService Kind) (start goal : Kind × String) (n : ℕ)
    (Found : Kind × String → Prop) (s : Search Kind) : Prop where
  visited : ∀ k, k ∈ s.visited ↔ Within service.Step n start k ∨ Found k
  found : ∀ k, Found k → ∃ b edge, Sphere service.Step n start b ∧ service.Step b edge k
  next : ∀ k, k ∈ s.nextFrontier ↔ Found k ∧ ¬Within service.Step n start k
  path : ∀ k ∈ s.visited, ∃ edges, walkBack start s.parent k = .ok edges ∧
    Shortest service.Step start edges.reverse k
  goal : goal ∉ s.visited

variable {n : ℕ} {Found : Kind × String → Prop} {s : Search Kind} {node : Kind × String}

/-- A neighbor that was not visited: a shortest walk to it goes through `node`. -/
theorem Level.shortest (h : Level service start goal n Found s)
    (hnode : Sphere service.Step n start node) {key : Kind × String} {edge : GraphEdge Kind}
    (hstep : service.Step node edge key) (hnew : key ∉ s.visited) :
    ∃ edges, walkBack start ((key, node, edge) :: s.parent) key = .ok edges ∧
      Shortest service.Step start edges.reverse key := by
  obtain ⟨edges, hback, hshort⟩ := h.path node ((h.visited node).2 (.inl hnode.within))
  have hout : ¬Within service.Step n start key := fun hin => hnew ((h.visited key).2 (.inl hin))
  have hstart : key ≠ start := by
    rintro rfl
    exact hout (within_refl n key)
  -- the walk to `node` has length `n`
  obtain ⟨es, hes, hlen⟩ := hnode
  have hn : edges.reverse.length = n := by
    have h1 := hshort.2 es hes.1
    have h2 := hes.2 edges.reverse hshort.1
    omega
  refine ⟨edge :: edges, walkBack_cons_self hstart hback, ?_⟩
  rw [List.reverse_cons]
  exact hshort.snoc hstep (by rwa [hn])

theorem Level.visit (h : Level service start goal n Found s)
    (hnode : Sphere service.Step n start node) {key : Kind × String} {edge : GraphEdge Kind}
    (hstep : service.Step node edge key) (hnew : key ∉ s.visited) (hgoal : key ≠ goal) :
    Level service start goal n (fun k => Found k ∨ k = key)
      ⟨key :: s.visited, (key, node, edge) :: s.parent, s.nextFrontier ++ [key]⟩ := by
  have hout : ¬Within service.Step n start key := fun hin => hnew ((h.visited key).2 (.inl hin))
  refine ⟨fun k => ?_, fun k hk => ?_, fun k => ?_, fun k hk => ?_, ?_⟩
  · rw [List.mem_cons, h.visited]
    tauto
  · rcases hk with hk | rfl
    · exact h.found k hk
    · exact ⟨node, edge, hnode, hstep⟩
  · rw [List.mem_append, List.mem_singleton, h.next]
    constructor
    · rintro (⟨hk, hk'⟩ | rfl)
      · exact ⟨.inl hk, hk'⟩
      · exact ⟨.inr rfl, hout⟩
    · rintro ⟨hk | rfl, hk'⟩
      · exact .inl ⟨hk, hk'⟩
      · exact .inr rfl
  · by_cases hkey : k = key
    · subst hkey
      exact h.shortest hnode hstep hnew
    · obtain ⟨edges, hback, hshort⟩ := h.path k ((List.mem_cons.1 hk).resolve_left hkey)
      refine ⟨edges, ?_, hshort⟩
      show walkBack start ((key, node, edge) :: s.parent) k = _
      rw [walkBack_cons_of_ne hkey, hback]
  · intro hmem
    rcases List.mem_cons.1 hmem with heq | hmem
    · exact hgoal heq.symm
    · exact h.goal hmem

/-- A neighbor that was visited already. -/
theorem Level.skip (h : Level service start goal n Found s)
    (hnode : Sphere service.Step n start node) {key : Kind × String} {edge : GraphEdge Kind}
    (hstep : service.Step node edge key) (hold : key ∈ s.visited) :
    Level service start goal n (fun k => Found k ∨ k = key) s := by
  have hkey := (h.visited key).1 hold
  refine ⟨fun k => ?_, fun k hk => ?_, fun k => ?_, h.path, h.goal⟩
  · rw [h.visited]
    constructor
    · tauto
    · rintro (hk | hk | rfl)
      · exact .inl hk
      · exact .inr hk
      · exact hkey
  · rcases hk with hk | rfl
    · exact h.found k hk
    · exact ⟨node, edge, hnode, hstep⟩
  · rw [h.next]
    constructor
    · rintro ⟨hk, hk'⟩
      exact ⟨.inl hk, hk'⟩
    · rintro ⟨hk | rfl, hk'⟩
      · exact ⟨hk, hk'⟩
      · exact ⟨hkey.resolve_left hk', hk'⟩

theorem Level.congr {Found' : Kind × String → Prop} (h : Level service start goal n Found s)
    (heq : ∀ k, Found k ↔ Found' k) : Level service start goal n Found' s := by
  have : Found = Found' := funext fun k => propext (heq k)
  rwa [← this]

/-- The neighbors of a node of the frontier: a shortest walk to the goal, or the level goes on. -/
theorem scanNeighbors_spec (hnode : Sphere service.Step n start node)
    (neighbors : List (GraphEdge Kind × GraphEntity Kind))
    (hsteps : ∀ p ∈ neighbors, service.Step node p.1 p.2.key)
    (h : Level service start goal n Found s) :
    match scanNeighbors start goal node neighbors s with
    | .ok (.inl path) => Shortest service.Step start path goal ∧ path.length ≤ n + 1
    | .ok (.inr s') => Level service start goal n
        (fun k => Found k ∨ k ∈ neighbors.map fun p => p.2.key) s'
    | .error _ => False := by
  induction neighbors generalizing s Found with
  | nil => exact h.congr fun k => by simp
  | cons p neighbors ih =>
    obtain ⟨edge, neighbor⟩ := p
    have hstep : service.Step node edge neighbor.key := hsteps (edge, neighbor) (.head _)
    have hrest := fun p hp => hsteps p (.tail _ hp)
    have hfound : ∀ k, (Found k ∨ k = neighbor.key) ∨ k ∈ neighbors.map (fun p => p.2.key) ↔
        Found k ∨ k ∈ ((edge, neighbor) :: neighbors).map fun p => p.2.key := fun k => by
      rw [List.map_cons, List.mem_cons, or_assoc]
    unfold scanNeighbors
    dsimp only
    by_cases hold : neighbor.key ∈ s.visited
    · rw [if_pos hold]
      have := ih hrest (h.skip hnode hstep hold)
      split at this <;> simp_all
    · rw [if_neg hold]
      by_cases hgoal : neighbor.key = goal
      · obtain ⟨edges, hback, hshort⟩ := h.shortest hnode hstep hold
        rw [if_pos hgoal, hback]
        refine ⟨hgoal ▸ hshort, ?_⟩
        obtain ⟨es, hes, hlen⟩ := hnode
        have := hshort.2 (es ++ [edge]) (hes.1.snoc hstep)
        simpa [hlen] using this
      · rw [if_neg hgoal]
        have := ih hrest (h.visit hnode hstep hold hgoal)
        split at this <;> simp_all

/-- A frontier: a shortest walk to the goal, or the next frontier, or what `get_neighbors` raised. -/
theorem scanFrontier_spec (frontier : List (Kind × String))
    (hfrontier : ∀ b ∈ frontier, Sphere service.Step n start b)
    (h : Level service start goal n Found s) :
    match service.scanFrontier start goal frontier s with
    | .ok (.inl path) => Shortest service.Step start path goal ∧ path.length ≤ n + 1
    | .ok (.inr s') => Level service start goal n
        (fun k => Found k ∨ ∃ b ∈ frontier, ∃ edge, service.Step b edge k) s'
    | .error e => ∃ b ∈ frontier, service.getNeighbors b.1 b.2 = .error e := by
  induction frontier generalizing s Found with
  | nil => exact h.congr fun k => by simp
  | cons node frontier ih =>
    have hnode := hfrontier node (.head _)
    unfold scanFrontier
    rcases hneighbors : service.getNeighbors node.1 node.2 with e | neighbors
    · exact ⟨node, .head _, hneighbors⟩
    have hscan := scanNeighbors_spec hnode neighbors
      (fun p hp => ⟨neighbors, p.2, hneighbors, hp, rfl⟩) h
    rw [Except.ok_bind]
    rcases hresult : scanNeighbors start goal node neighbors s with e | path | s'
    · rw [hresult] at hscan
      exact hscan.elim
    · rw [hresult] at hscan
      exact hscan
    · rw [hresult] at hscan
      have hrest := ih (fun b hb => hfrontier b (.tail _ hb)) hscan
      have hfound : ∀ k, ((Found k ∨ k ∈ neighbors.map fun p => p.2.key) ∨
          ∃ b ∈ frontier, ∃ edge, service.Step b edge k) ↔
            (Found k ∨ ∃ b ∈ node :: frontier, ∃ edge, service.Step b edge k) := by
        intro k
        have hstep : (k ∈ neighbors.map fun p => p.2.key) ↔ ∃ edge, service.Step node edge k := by
          simp [Step, hneighbors]
        rw [hstep]
        simp [or_assoc]
      show match service.scanFrontier start goal frontier s' with
        | .ok (.inl path) => Shortest service.Step start path goal ∧ path.length ≤ n + 1
        | .ok (.inr s') => Level service start goal n _ s'
        | .error e => ∃ b ∈ node :: frontier, service.getNeighbors b.1 b.2 = .error e
      rcases hfinal : service.scanFrontier start goal frontier s' with e | path | s''
      · rw [hfinal] at hrest
        obtain ⟨b, hb, herror⟩ := hrest
        exact ⟨b, .tail _ hb, herror⟩
      · rw [hfinal] at hrest
        exact hrest
      · rw [hfinal] at hrest
        exact hrest.congr hfound

/-! ## All levels -/

/-- The search before its `n`-th level. -/
structure Ready (service : GraphService Kind) (start goal : Kind × String) (n : ℕ)
    (frontier : List (Kind × String)) (s : Search Kind) : Prop where
  frontier : ∀ k, k ∈ frontier ↔ Sphere service.Step n start k
  level : Level service start goal n (fun _ => False) { s with nextFrontier := [] }

/-- After a level the next one starts. -/
theorem Level.ready {frontier : List (Kind × String)}
    (hfrontier : ∀ k, k ∈ frontier ↔ Sphere service.Step n start k)
    (h : Level service start goal n
      (fun k => False ∨ ∃ b ∈ frontier, ∃ edge, service.Step b edge k) s) :
    Ready service start goal (n + 1) s.nextFrontier s := by
  have hfound : ∀ k, (False ∨ ∃ b ∈ frontier, ∃ edge, service.Step b edge k) ↔
      ∃ b edge, Sphere service.Step n start b ∧ service.Step b edge k := by
    intro k
    simp only [hfrontier, false_or]
    constructor
    · rintro ⟨b, hb, edge, hstep⟩
      exact ⟨b, edge, hb, hstep⟩
    · rintro ⟨b, edge, hb, hstep⟩
      exact ⟨b, hb, edge, hstep⟩
  refine ⟨fun k => ?_, ⟨fun k => ?_, nofun, fun k => ?_, h.path, h.goal⟩⟩
  · rw [h.next, hfound, sphere_succ]
    tauto
  · show k ∈ s.visited ↔ _
    rw [h.visited, hfound, within_succ, or_false]
  · simp

theorem scanLevels_spec (depth : ℕ) {frontier : List (Kind × String)}
    (h : Ready service start goal n frontier s) :
    match service.scanLevels start goal depth frontier s with
    | .ok (some path) => Shortest service.Step start path goal ∧ path.length ≤ n + depth
    | .ok none => ¬Within service.Step (n + depth) start goal
    | .error e => ∃ m < n + depth, ∃ b, Sphere service.Step m start b ∧
        service.getNeighbors b.1 b.2 = .error e := by
  have hout : ¬Within service.Step n start goal := fun hin =>
    h.level.goal ((h.level.visited goal).2 (.inl hin))
  induction depth generalizing n frontier s with
  | zero => exact hout
  | succ depth ih =>
    have hscan := scanFrontier_spec frontier (fun b hb => (h.frontier b).1 hb) h.level
    unfold scanLevels
    rcases hresult : service.scanFrontier start goal frontier { s with nextFrontier := [] } with
      e | path | s'
    · rw [hresult] at hscan
      obtain ⟨b, hb, herror⟩ := hscan
      exact ⟨n, by omega, b, (h.frontier b).1 hb, herror⟩
    · rw [hresult] at hscan
      exact ⟨hscan.1, hscan.2.trans (by omega)⟩
    · rw [hresult] at hscan
      have hready := hscan.ready h.frontier
      rw [Except.ok_bind]
      dsimp only
      by_cases hnil : s'.nextFrontier = []
      · rw [if_pos hnil]
        refine fun hin => hout (within_of_sphere_empty (fun c hc => ?_) hin)
        have := (hready.frontier c).2 hc
        rw [hnil] at this
        cases this
      · rw [if_neg hnil]
        have hnext := ih hready fun hin =>
          hready.level.goal ((hready.level.visited goal).2 (.inl hin))
        rw [show n + (depth + 1) = n + 1 + depth by omega]
        exact hnext

/-- What `get_path` returns: a shortest walk, `none` when no walk is short enough; it raises only what
`get_neighbors` raises at a node fewer than `maxDepth` steps away. -/
theorem getPath_spec (service : GraphService Kind) (sourceKind : Kind) (sourceId : String)
    (targetKind : Kind) (targetId : String) (maxDepth : ℕ) :
    match service.getPath sourceKind sourceId targetKind targetId maxDepth with
    | .ok (some path) => Shortest service.Step (sourceKind, sourceId) path (targetKind, targetId) ∧
        path.length ≤ maxDepth
    | .ok none => ¬Within service.Step maxDepth (sourceKind, sourceId) (targetKind, targetId)
    | .error e => ∃ m < maxDepth, ∃ b, Sphere service.Step m (sourceKind, sourceId) b ∧
        service.getNeighbors b.1 b.2 = .error e := by
  unfold getPath
  dsimp only
  by_cases heq : (sourceKind, sourceId) = (targetKind, targetId)
  · rw [if_pos heq]
    exact ⟨⟨Walk.nil_iff.2 heq, fun _ _ => Nat.zero_le _⟩, Nat.zero_le _⟩
  · rw [if_neg heq]
    have hready : Ready service (sourceKind, sourceId) (targetKind, targetId) 0
        [(sourceKind, sourceId)] ⟨[(sourceKind, sourceId)], [], []⟩ := by
      refine ⟨fun k => ?_, ⟨fun k => ?_, nofun, fun k => ?_, fun k hk => ?_, ?_⟩⟩
      · rw [List.mem_singleton, sphere_zero, eq_comm]
      · rw [List.mem_singleton, within_zero, or_false, eq_comm]
      · simp
      · rw [List.mem_singleton.1 hk]
        exact ⟨[], walkBack_start, .nil _, fun _ _ => Nat.zero_le _⟩
      · rw [List.mem_singleton]
        exact fun h => heq h.symm
    have := scanLevels_spec maxDepth hready
    rwa [Nat.zero_add] at this

end KnowledgeGraph.GraphService
