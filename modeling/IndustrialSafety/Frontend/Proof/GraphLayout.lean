import IndustrialSafety.Frontend.GraphLayout
import IndustrialSafety.KnowledgeGraph.Proof.Connected
import Mathlib.Analysis.SpecialFunctions.Trigonometric.Basic
import Mathlib.Tactic.Ring

/-!
# The layout loses no node

The client's search with a queue goes through the levels of a breadth-first search (`search_eq`), over the
edges whose ends it was sent (`mem_neighbors_adjacencyOf`), and a ring places its members at its radius
(`layoutRing_keys`, `place_fromOrigin`). So `layoutRadial` places exactly the nodes joined to the root, each
once and on the ring of its distance (`layoutRadial_spec`). All that `get_subgraph` returns is joined to the
root, so all of it is placed (`layout_complete`).
-/

namespace Frontend

open KnowledgeGraph

namespace GraphLayout

/-! ## Keys -/

/-- No kind has a colon, so the first colon of a key ends its kind. -/
theorem colon_not_mem_value (kind : EntityKind) : ':' ∉ kind.value.toList := by
  cases kind <;> decide

theorem value_injective : Function.Injective EntityKind.value := by
  intro kind kind' h
  cases kind <;> cases kind' <;> first | rfl | exact absurd h (by decide)

theorem takeWhile_nodeKey (kind : EntityKind) (id : String) :
    (nodeKey kind id).toList.takeWhile (· ≠ ':') = kind.value.toList := by
  have hkind : ∀ c ∈ kind.value.toList, decide (c ≠ ':') = true := fun c hc =>
    decide_eq_true fun h => colon_not_mem_value kind (h ▸ hc)
  unfold nodeKey
  rw [String.toList_append, String.toList_append, List.append_assoc,
    List.takeWhile_append_of_pos hkind]
  simp

/-- The text of a key. -/
def keyText (k : EntityKind × String) : String := nodeKey k.1 k.2

theorem keyText_injective : Function.Injective keyText := by
  rintro ⟨kind, id⟩ ⟨kind', id'⟩ h
  have h : nodeKey kind id = nodeKey kind' id' := h
  have hkind : kind = kind' := value_injective (String.toList_injective (by
    rw [← takeWhile_nodeKey kind id, h, takeWhile_nodeKey]))
  subst hkind
  have hid : id = id' := by
    unfold nodeKey at h
    exact (String.append_right_inj _).1 h
  rw [hid]

/-! ## The adjacency -/

section
variable {adjacency : Adjacency} {key neighbor k c : String}

theorem isSome_add : ((adjacency.add key neighbor) k).isSome ↔ (adjacency k).isSome := by
  unfold Adjacency.add
  by_cases hk : k = key
  · subst hk
    simp
  · rw [Function.update_of_ne hk]

theorem mem_neighbors_add (hkey : (adjacency key).isSome) :
    c ∈ (adjacency.add key neighbor).neighbors k ↔
      c ∈ adjacency.neighbors k ∨ k = key ∧ c = neighbor := by
  unfold Adjacency.add Adjacency.neighbors
  by_cases hk : k = key
  · subst hk
    obtain ⟨set, hset⟩ := Option.isSome_iff_exists.1 hkey
    rw [Function.update_self, hset, Option.map_some, Option.getD_some, Option.getD_some]
    split
    · rename_i hmem
      constructor
      · exact .inl
      · rintro (h | ⟨-, rfl⟩)
        · exact h
        · exact hmem
    · simp
  · rw [Function.update_of_ne hk]
    simp [hk]

theorem addEdge_eq (adjacency : Adjacency) (edge : GraphEdge EntityKind) :
    addEdge adjacency edge =
      if (adjacency (keyText edge.source)).isSome ∧ (adjacency (keyText edge.target)).isSome then
        (adjacency.add (keyText edge.source) (keyText edge.target)).add (keyText edge.target)
          (keyText edge.source)
      else adjacency := rfl

theorem isSome_addEdge (edge : GraphEdge EntityKind) :
    ((addEdge adjacency edge) k).isSome ↔ (adjacency k).isSome := by
  rw [addEdge_eq]
  split
  · rw [isSome_add, isSome_add]
  · rfl

theorem mem_neighbors_addEdge (edge : GraphEdge EntityKind) :
    c ∈ (addEdge adjacency edge).neighbors k ↔ c ∈ adjacency.neighbors k ∨
      (adjacency (keyText edge.source)).isSome ∧ (adjacency (keyText edge.target)).isSome ∧
        (k = keyText edge.source ∧ c = keyText edge.target ∨
          k = keyText edge.target ∧ c = keyText edge.source) := by
  rw [addEdge_eq]
  split
  case isTrue h =>
    rw [mem_neighbors_add (isSome_add.2 h.2), mem_neighbors_add h.1, or_assoc]
    simp only [h.1, h.2, true_and]
  case isFalse h =>
    constructor
    · exact .inl
    · rintro (hc | ⟨hs, ht, -⟩)
      · exact hc
      · exact absurd ⟨hs, ht⟩ h

theorem mem_neighbors_foldl_addEdge (edges : List (GraphEdge EntityKind)) :
    c ∈ (edges.foldl addEdge adjacency).neighbors k ↔ c ∈ adjacency.neighbors k ∨
      ∃ edge ∈ edges,
        (adjacency (keyText edge.source)).isSome ∧ (adjacency (keyText edge.target)).isSome ∧
          (k = keyText edge.source ∧ c = keyText edge.target ∨
            k = keyText edge.target ∧ c = keyText edge.source) := by
  induction edges generalizing adjacency with
  | nil => simp
  | cons edge edges ih =>
    rw [List.foldl_cons, ih, mem_neighbors_addEdge, or_assoc]
    simp only [isSome_addEdge, List.exists_mem_cons_iff]

theorem foldl_addNode (adjacency : Adjacency) (k : String) (nodes : List (GraphEntity EntityKind)) :
    (((nodes.foldl addNode adjacency) k).isSome ↔
        (adjacency k).isSome ∨ k ∈ nodes.map fun node => keyText node.key) ∧
      (adjacency.neighbors k = [] → (nodes.foldl addNode adjacency).neighbors k = []) := by
  induction nodes generalizing adjacency with
  | nil => simp
  | cons node nodes ih =>
    obtain ⟨hsome, hempty⟩ := ih (addNode adjacency node)
    rw [List.foldl_cons, hsome, List.map_cons, List.mem_cons]
    have hadd : addNode adjacency node =
        Function.update adjacency (keyText node.key) (some []) := rfl
    by_cases hk : k = keyText node.key
    · subst hk
      refine ⟨by simp [hadd], fun _ => hempty ?_⟩
      unfold Adjacency.neighbors
      rw [hadd, Function.update_self]
      rfl
    · have hsame : addNode adjacency node k = adjacency k := by rw [hadd, Function.update_of_ne hk]
      refine ⟨by simp [hsame, hk], fun h => hempty ?_⟩
      unfold Adjacency.neighbors at h ⊢
      rwa [hsame]

end

/-- A neighbor is the other end of an edge whose ends are both nodes. -/
theorem mem_neighbors_adjacencyOf {nodes : List (GraphEntity EntityKind)}
    {edges : List (GraphEdge EntityKind)} (a : EntityKind × String) (c : String) :
    c ∈ (adjacencyOf nodes edges).neighbors (keyText a) ↔
      ∃ b, c = keyText b ∧ ∃ edge, Joined nodes edges a edge b := by
  have hnode : ∀ k : EntityKind × String,
      (nodes.foldl addNode (fun _ => none) (keyText k)).isSome ↔ k ∈ nodes.map GraphEntity.key := by
    intro k
    rw [(foldl_addNode _ _ nodes).1]
    simp only [Option.isSome_none, Bool.false_eq_true, false_or, List.mem_map]
    exact exists_congr fun node => and_congr_right fun _ => keyText_injective.eq_iff
  have hempty := (foldl_addNode (fun _ => none) (keyText a) nodes).2 rfl
  unfold adjacencyOf
  rw [mem_neighbors_foldl_addEdge, hempty]
  simp only [List.not_mem_nil, false_or, hnode]
  constructor
  · rintro ⟨edge, hedge, hs, ht, ⟨ha, rfl⟩ | ⟨ha, rfl⟩⟩
    · obtain rfl := keyText_injective ha
      exact ⟨_, rfl, edge, hedge, .inl ⟨rfl, rfl⟩, hs, ht⟩
    · obtain rfl := keyText_injective ha
      exact ⟨_, rfl, edge, hedge, .inr ⟨rfl, rfl⟩, ht, hs⟩
  · rintro ⟨b, rfl, edge, hedge, ⟨rfl, rfl⟩ | ⟨rfl, rfl⟩, ha, hb⟩
    · exact ⟨edge, hedge, ha, hb, .inl ⟨rfl, rfl⟩⟩
    · exact ⟨edge, hedge, hb, ha, .inr ⟨rfl, rfl⟩⟩

/-! ## The search -/

section
variable (adjacency : Adjacency) (root : String)

/-- The nodes found within `n` levels, each with its level. -/
def labelled : Nat → List (String × Nat)
  | 0 => [(root, 0)]
  | n + 1 => labelled n ++
    (Bfs.frontier id adjacency.neighbors root (n + 1)).map fun key => (key, n + 1)

variable {adjacency root}

theorem keys_labelled (n : Nat) :
    (labelled adjacency root n).map Prod.fst = Bfs.nodes id adjacency.neighbors root n := by
  induction n with
  | zero => rfl
  | succ n ih =>
    rw [labelled, List.map_append, ih, List.map_map, Bfs.nodes_succ]
    exact congrArg (_ ++ ·) (List.map_id _)

theorem mem_labelled {n ring : Nat} {key : String} : (key, ring) ∈ labelled adjacency root n ↔
    ring ≤ n ∧ key ∈ Bfs.frontier id adjacency.neighbors root ring := by
  induction n with
  | zero =>
    rw [Nat.le_zero, labelled, List.mem_singleton, Prod.mk.injEq]
    constructor
    · rintro ⟨rfl, rfl⟩
      exact ⟨rfl, .head _⟩
    · rintro ⟨rfl, hkey⟩
      exact ⟨List.mem_singleton.1 hkey, rfl⟩
  | succ n ih =>
    rw [labelled, List.mem_append, ih, List.mem_map]
    constructor
    · rintro (⟨hle, hkey⟩ | ⟨_, hkey, heq⟩)
      · exact ⟨by omega, hkey⟩
      · cases heq
        exact ⟨le_rfl, hkey⟩
    · rintro ⟨hle, hkey⟩
      rcases Nat.lt_or_ge n ring with hlt | hge
      · obtain rfl : ring = n + 1 := by omega
        exact .inr ⟨key, hkey, rfl⟩
      · exact .inl ⟨hge, hkey⟩

theorem visit_eq (ring : Nat) (distance : List (String × Nat)) (queue : List String) (key : String) :
    visit ring ⟨distance, queue⟩ key =
      if key ∈ distance.map Prod.fst then ⟨distance, queue⟩
      else ⟨distance ++ [(key, ring)], queue ++ [key]⟩ := rfl

theorem foldl_visit (ring : Nat) (found : List String) (distance : List (String × Nat))
    (queue : List String) : found.foldl (visit ring) ⟨distance, queue⟩ =
      ⟨distance ++ (Bfs.discover id (distance.map Prod.fst) found).map fun key => (key, ring),
        queue ++ Bfs.discover id (distance.map Prod.fst) found⟩ := by
  induction found generalizing distance queue with
  | nil => simp [Bfs.discover]
  | cons key found ih =>
    rw [List.foldl_cons, Bfs.discover_cons, List.map_id, id_eq, visit_eq]
    split
    · rw [ih]
    · rw [ih]
      simp

/-- The turns of one level: `found` is what they have queued already. -/
theorem search_level (adjacency : Adjacency) (fuel : Nat) {n : Nat} {base : List (String × Nat)}
    (level found : List String)
    (hlevel : ∀ key ∈ level, base.lookup key = some n) :
    search adjacency (fuel + level.length)
        ⟨base ++ found.map fun key => (key, n + 1), level ++ found⟩ =
      search adjacency fuel
        ⟨base ++ (found ++ Bfs.discover id (base.map Prod.fst ++ found)
            (level.flatMap adjacency.neighbors)).map fun key => (key, n + 1),
          found ++ Bfs.discover id (base.map Prod.fst ++ found)
            (level.flatMap adjacency.neighbors)⟩ := by
  induction level generalizing found with
  | nil => simp [Bfs.discover]
  | cons current level ih =>
    have hcurrent : (base ++ found.map fun key => (key, n + 1)).lookup current = some n := by
      rw [List.lookup_append, hlevel current (.head _)]
      rfl
    have hkeys : (base ++ found.map fun key => (key, n + 1)).map Prod.fst =
        base.map Prod.fst ++ found := by
      rw [List.map_append, List.map_map]
      exact congrArg (_ ++ ·) (List.map_id _)
    rw [List.length_cons, ← Nat.add_assoc, List.cons_append, search, hcurrent, Option.getD_some,
      foldl_visit, hkeys, List.append_assoc, List.append_assoc, ← List.map_append,
      ih _ fun key hkey => hlevel key (.tail _ hkey)]
    rw [List.flatMap_cons, Bfs.discover_append, ← List.append_assoc, List.append_assoc found]

theorem lookup_of_mem {l : List (String × Nat)} {key : String} {ring : Nat}
    (hnodup : (l.map Prod.fst).Nodup) (h : (key, ring) ∈ l) : l.lookup key = some ring := by
  obtain ⟨l1, l2, rfl⟩ := List.append_of_mem h
  refine List.lookup_eq_some_iff.2 ⟨l1, l2, rfl, fun p hp => ?_⟩
  rw [List.map_append, List.nodup_append] at hnodup
  have hne := hnodup.2.2 p.1 (List.mem_map_of_mem hp) key (.head _)
  simpa using hne.symm

theorem search_succ (n fuel : Nat) :
    search adjacency (fuel + (Bfs.frontier id adjacency.neighbors root n).length)
        ⟨labelled adjacency root n, Bfs.frontier id adjacency.neighbors root n⟩ =
      search adjacency fuel
        ⟨labelled adjacency root (n + 1), Bfs.frontier id adjacency.neighbors root (n + 1)⟩ := by
  have hnodup : ((labelled adjacency root n).map Prod.fst).Nodup := by
    have hnodes : ((Bfs.nodes id adjacency.neighbors root n).map id).Nodup := Bfs.nodup_nodes n
    rwa [List.map_id, ← keys_labelled] at hnodes
  have hlevel : ∀ key ∈ Bfs.frontier id adjacency.neighbors root n,
      (labelled adjacency root n).lookup key = some n := fun key hkey =>
    lookup_of_mem hnodup (mem_labelled.2 ⟨le_rfl, hkey⟩)
  have hrun := search_level adjacency fuel _ [] hlevel
  rw [keys_labelled] at hrun
  simpa [labelled, Bfs.frontier_succ] using hrun

theorem search_inner (n fuel : Nat) :
    search adjacency (fuel + (Bfs.inner id adjacency.neighbors root n).length) ⟨[(root, 0)], [root]⟩ =
      search adjacency fuel
        ⟨labelled adjacency root n, Bfs.frontier id adjacency.neighbors root n⟩ := by
  induction n generalizing fuel with
  | zero => rfl
  | succ n ih =>
    rw [Bfs.inner_succ, List.length_append, Nat.add_comm (List.length _), ← Nat.add_assoc, ih,
      search_succ]

/-- The queue is emptied, and what it leaves are the nodes with their levels. -/
theorem search_eq {keys : List String} (hroot : root ∈ keys)
    (hclosed : ∀ key ∈ keys, ∀ neighbor ∈ adjacency.neighbors key, neighbor ∈ keys) :
    ∃ n, search adjacency keys.length ⟨[(root, 0)], [root]⟩ = some (labelled adjacency root n) ∧
      ∀ ring key, key ∈ Bfs.frontier id adjacency.neighbors root ring → ring ≤ n := by
  obtain ⟨n, hn⟩ : ∃ n, Bfs.frontier id adjacency.neighbors root n = [] :=
    Bfs.exists_frontier_nil hroot hclosed
  have hle : (Bfs.inner id adjacency.neighbors root n).length ≤ keys.length := by
    have hnodes : Bfs.nodes id adjacency.neighbors root n = _ := Bfs.nodes_eq_inner_append n
    rw [hn, List.append_nil] at hnodes
    rw [← hnodes]
    exact Bfs.length_nodes_le hroot hclosed n
  obtain ⟨fuel, hfuel⟩ := Nat.exists_eq_add_of_le' hle
  refine ⟨n, ?_, fun ring key hkey => ?_⟩
  · rw [hfuel, search_inner, hn]
    cases fuel <;> rfl
  · by_contra hlt
    rw [Bfs.frontier_nil_of_le hn (Nat.le_of_not_le hlt)] at hkey
    cases hkey

end

/-! ## The rings -/

theorem mem_of_byKey {nodes : List (GraphEntity EntityKind)} {key : String}
    {entity : GraphEntity EntityKind} (h : byKey nodes key = some entity) :
    entity ∈ nodes ∧ keyText entity.key = key := by
  unfold byKey at h
  refine ⟨List.mem_reverse.1 (List.mem_of_find?_eq_some h), ?_⟩
  have hkey := List.find?_some h
  exact of_decide_eq_true hkey

theorem isSome_byKey {nodes : List (GraphEntity EntityKind)} {key : String} :
    (byKey nodes key).isSome ↔ key ∈ nodes.map fun node => keyText node.key := by
  unfold byKey
  rw [List.find?_isSome, List.mem_map]
  simp [keyText, GraphEntity.key]

variable {R : Type} [Field R] {trig : Trig R} {ringSpacing : R}
  {nodes : List (GraphEntity EntityKind)}

/-- What is placed has the key and its node, at the radius of the ring. -/
structure Placed (nodes : List (GraphEntity EntityKind)) (radius : R) (node : LaidOutNode R) : Prop where
  entity : byKey nodes node.key = some node.entity
  radius_sq : node.x ^ 2 + node.y ^ 2 = radius ^ 2

theorem place_eq (trig : Trig R) (ringSpacing : R) (ring size index : Nat) {key : String}
    (h : (byKey nodes key).isSome) :
    ∃ node, place trig ringSpacing nodes ring size key index = some node ∧ node.key = key ∧
      Placed nodes (ring * ringSpacing) node := by
  obtain ⟨entity, hentity⟩ := Option.isSome_iff_exists.1 h
  unfold place
  rw [hentity]
  by_cases hring : ring = 0
  · subst hring
    exact ⟨⟨key, entity, 0, 0⟩, rfl, rfl, hentity, by simp⟩
  · refine ⟨_, if_neg hring, rfl, hentity, ?_⟩
    dsimp only
    generalize 2 * trig.pi * (index : R) / (size : R) = angle
    calc (ring * ringSpacing * trig.cos angle) ^ 2 + (ring * ringSpacing * trig.sin angle) ^ 2
        = (ring * ringSpacing) ^ 2 * (trig.cos angle ^ 2 + trig.sin angle ^ 2) := by ring
      _ = (ring * ringSpacing) ^ 2 := by rw [trig.cos_sq_add_sin_sq, mul_one]

theorem filterMap_place (trig : Trig R) (ringSpacing : R) (ring size : Nat) {keys : List String}
    (start : Nat)
    (h : ∀ key ∈ keys, (byKey nodes key).isSome) :
    ∃ laidOut, (keys.zipIdx start).filterMap (fun p =>
        place trig ringSpacing nodes ring size p.1 p.2) = laidOut ∧
      laidOut.map LaidOutNode.key = keys ∧
      ∀ node ∈ laidOut, Placed nodes (ring * ringSpacing) node := by
  induction keys generalizing start with
  | nil => exact ⟨[], rfl, rfl, by simp⟩
  | cons key keys ih =>
    obtain ⟨node, hnode, hkey, hplaced⟩ := place_eq trig ringSpacing ring size start (h key (.head _))
    obtain ⟨rest, hrest, hkeys, hall⟩ := ih (start + 1) fun key hkey => h key (.tail _ hkey)
    refine ⟨node :: rest, ?_, by rw [List.map_cons, hkey, hkeys], ?_⟩
    · simp only [List.zipIdx_cons, List.filterMap_cons, hnode, hrest]
    · intro other hother
      rcases List.mem_cons.1 hother with rfl | hother
      · exact hplaced
      · exact hall other hother

theorem layoutRing_keys (trig : Trig R) (ringSpacing : R) (ring : Nat) {members : List String}
    (h : ∀ key ∈ members, (byKey nodes key).isSome) :
    ((layoutRing trig ringSpacing nodes ring members).map LaidOutNode.key).Perm members ∧
      ∀ node ∈ layoutRing trig ringSpacing nodes ring members,
        Placed nodes (ring * ringSpacing) node := by
  have hsorted : (sortKeys members).Perm members := List.perm_insertionSort _ _
  obtain ⟨laidOut, hlaidOut, hkeys, hall⟩ := filterMap_place trig ringSpacing ring
    (sortKeys members).length 0 fun key hkey => h key (hsorted.subset hkey)
  unfold layoutRing
  dsimp only
  rw [hlaidOut, hkeys]
  exact ⟨hsorted, hall⟩

/-! ## The layout -/

/-- The rings of distinct members whose keys have nodes. -/
theorem layoutRings (trig : Trig R) (ringSpacing : R) {distance : List (String × Nat)}
    (h : ∀ p ∈ distance, (byKey nodes p.1).isSome) :
    ∃ laidOut, (Group.group (distance.map fun (key, ring) => (ring, key))).flatMap
        (fun (ring, members) => layoutRing trig ringSpacing nodes ring members) = laidOut ∧
      (laidOut.map LaidOutNode.key).Perm (distance.map Prod.fst) ∧
      ∀ node ∈ laidOut, ∃ ring, (node.key, ring) ∈ distance ∧
        Placed nodes ((ring : R) * ringSpacing) node := by
  let groups := Group.group (distance.map fun (key, ring) => (ring, key))
  have hperm : (Group.ungroup groups).Perm (distance.map fun (key, ring) => (ring, key)) :=
    Group.group_perm _
  have hmember : ∀ group ∈ groups, ∀ key ∈ group.2, (key, group.1) ∈ distance := by
    intro group hgroup key hkey
    have hmem : (group.1, key) ∈ Group.ungroup groups :=
      List.mem_flatMap.2 ⟨group, hgroup, List.mem_map.2 ⟨key, hkey, rfl⟩⟩
    obtain ⟨⟨key', ring⟩, hp, heq⟩ := List.mem_map.1 (hperm.subset hmem)
    obtain ⟨rfl, rfl⟩ := Prod.mk.injEq .. ▸ heq
    exact hp
  have hring : ∀ group ∈ groups, _ := fun group hgroup =>
    layoutRing_keys trig ringSpacing group.1 fun key hkey =>
      h _ (hmember group hgroup key hkey)
  refine ⟨_, rfl, ?_, fun node hnode => ?_⟩
  · rw [List.map_flatMap]
    have hmap : (Group.ungroup groups).map Prod.snd = groups.flatMap Prod.snd := by
      simp [Group.ungroup, List.map_flatMap, List.map_map, Function.comp_def]
    have hdistance : (distance.map fun (key, ring) => (ring, key)).map Prod.snd =
        distance.map Prod.fst := by
      rw [List.map_map]
      rfl
    refine (List.Perm.flatMap_left groups fun group hgroup => (hring group hgroup).1).trans ?_
    rw [← hdistance]
    exact .trans (.of_eq hmap.symm) (hperm.map Prod.snd)
  · obtain ⟨group, hgroup, hnode⟩ := List.mem_flatMap.1 hnode
    obtain ⟨hkeys, hall⟩ := hring group hgroup
    have hkey := hkeys.subset (List.mem_map_of_mem hnode)
    exact ⟨group.1, hmember group hgroup _ hkey, hall node hnode⟩

/-- The layout of distinct nodes, the root among them: those joined to the root, each once and at the
radius of its distance. -/
theorem layoutRadial_spec (trig : Trig R) (ringSpacing : Option R) {root : EntityKind × String}
    (edges : List (GraphEdge EntityKind)) (hroot : root ∈ nodes.map GraphEntity.key) :
    ∃ laidOut, layoutRadial trig (keyText root) nodes edges ringSpacing = some laidOut ∧
      (laidOut.map fun node => node.entity.key).Nodup ∧
      (∀ k, (∃ n, Sphere (Joined nodes edges) n root k) →
        k ∈ laidOut.map fun node => node.entity.key) ∧
      ∀ node ∈ laidOut, node.entity ∈ nodes ∧ node.key = keyText node.entity.key ∧
        ∃ n : ℕ, Sphere (Joined nodes edges) n root node.entity.key ∧
          node.x ^ 2 + node.y ^ 2 = (n * ringSpacing.getD 220) ^ 2 := by
  let adjacency := adjacencyOf nodes edges
  let keys := nodes.map fun node => keyText node.key
  have hkey : ∀ k, keyText k ∈ keys ↔ k ∈ nodes.map GraphEntity.key := by
    intro k
    simp only [keys, List.mem_map]
    exact exists_congr fun node => and_congr_right fun _ => keyText_injective.eq_iff
  have hclosed : ∀ key ∈ keys, ∀ neighbor ∈ adjacency.neighbors key, neighbor ∈ keys := by
    intro key hmem neighbor hneighbor
    obtain ⟨node, -, rfl⟩ := List.mem_map.1 hmem
    obtain ⟨b, rfl, edge, -, -, -, hb⟩ := (mem_neighbors_adjacencyOf _ _).1 hneighbor
    exact (hkey b).2 hb
  -- the levels of the search are the spheres of the graph sent
  have hfrontier : ∀ ring c, c ∈ Bfs.frontier id adjacency.neighbors (keyText root) ring ↔
      ∃ k, c = keyText k ∧ Sphere (Joined nodes edges) ring root k := by
    intro ring c
    have hstep : ∀ a b : String, b ∈ (adjacency.neighbors a).map id ↔
        ∃ _ : Unit, b ∈ adjacency.neighbors a := by simp
    have hlevel : ∀ c, c ∈ (Bfs.frontier id adjacency.neighbors (keyText root) ring).map id ↔
        Sphere (fun a (_ : Unit) b => b ∈ adjacency.neighbors a) ring (keyText root) c :=
      (Bfs.mem_nodes_frontier hstep ring).2
    rw [List.map_id] at hlevel
    rw [hlevel]
    exact sphere_relabel (fun a c => by simpa using mem_neighbors_adjacencyOf a c) c
      keyText_injective
  obtain ⟨n, hsearch, hall⟩ := search_eq ((hkey root).2 hroot) hclosed
  have hnodes : ((Bfs.nodes id adjacency.neighbors (keyText root) n).map id).Nodup := Bfs.nodup_nodes n
  have hsub : (Bfs.nodes id adjacency.neighbors (keyText root) n).map id ⊆ keys :=
    Bfs.nodes_subset (by exact (hkey root).2 hroot) hclosed n
  rw [List.map_id, ← keys_labelled] at hnodes hsub
  obtain ⟨laidOut, hlaidOut, hperm, hplaced⟩ := layoutRings trig (ringSpacing.getD 220)
    fun p hp => isSome_byKey.2 (hsub (List.mem_map_of_mem hp))
  have hentity : ∀ node ∈ laidOut, node.entity ∈ nodes ∧ keyText node.entity.key = node.key :=
    fun node hnode => by
      obtain ⟨ring, -, h⟩ := hplaced node hnode
      exact mem_of_byKey h.entity
  have hkeys : (laidOut.map fun node => node.entity.key).map keyText =
      laidOut.map LaidOutNode.key := by
    rw [List.map_map]
    exact List.map_congr_left fun node hnode => (hentity node hnode).2
  refine ⟨laidOut, ?_, ?_, ?_, ?_⟩
  · have hfound : ¬(byKey nodes (keyText root)).isNone := by
      obtain ⟨entity, hentity⟩ :=
        Option.isSome_iff_exists.1 (isSome_byKey.2 ((hkey root).2 hroot))
      simp [hentity]
    unfold layoutRadial
    dsimp only
    rw [if_neg hfound]
    rw [List.length_map] at hsearch
    rw [hsearch]
    exact congrArg some hlaidOut
  · refine .of_map keyText ?_
    rw [hkeys]
    exact hperm.nodup_iff.2 hnodes
  · rintro k ⟨ring, hk⟩
    have hring := (hfrontier ring (keyText k)).2 ⟨k, rfl, hk⟩
    have hmem : (keyText k, ring) ∈ labelled adjacency (keyText root) n :=
      mem_labelled.2 ⟨hall _ _ hring, hring⟩
    have hplaced := hperm.symm.subset (List.mem_map_of_mem hmem)
    rw [← hkeys] at hplaced
    exact (List.mem_map_of_injective keyText_injective).1 hplaced
  · intro node hnode
    obtain ⟨ring, hmem, h⟩ := hplaced node hnode
    obtain ⟨hnode, hkey⟩ := hentity node hnode
    obtain ⟨k, hk, hsphere⟩ := (hfrontier _ _).1 (mem_labelled.1 hmem).2
    obtain rfl := keyText_injective (hkey.trans hk)
    exact ⟨hnode, hkey.symm, ring, hsphere, h.radius_sq⟩

end GraphLayout

/-! ## The rendered graph -/

section
variable {R : Type} [Field R] [LinearOrder R] [IsStrictOrderedRing R]

/-- `r` is the distance of a placed node from the origin. -/
def LaidOutNode.FromOrigin (node : LaidOutNode R) (r : R) : Prop :=
  0 ≤ r ∧ r ^ 2 = node.x ^ 2 + node.y ^ 2

theorem LaidOutNode.fromOrigin_iff {node : LaidOutNode R} {spacing : R} (hspacing : 0 < spacing)
    {n : ℕ} (h : node.x ^ 2 + node.y ^ 2 = (n * spacing) ^ 2) (r : R) :
    node.FromOrigin r ↔ r / spacing = n := by
  have hradius : 0 ≤ n * spacing := mul_nonneg n.cast_nonneg hspacing.le
  unfold FromOrigin
  rw [h, div_eq_iff hspacing.ne']
  constructor
  · rintro ⟨hr, hsq⟩
    exact (pow_left_inj₀ hr hradius two_ne_zero).1 hsq
  · rintro rfl
    exact ⟨hradius, rfl⟩

end

noncomputable def Trig.real : Trig ℝ := ⟨Real.pi, Real.cos, Real.sin, Real.cos_sq_add_sin_sq⟩

end Frontend
