import Mathlib.Data.List.Nodup
import Mathlib.Data.Finset.Card
import Mathlib.Data.Nat.Find

/-!
# Walks and breadth-first order

`Walk step a es b`: a walk from `a` to `b` along the labels `es`. `Within n` and `Sphere n` are the nodes
within `n` steps and at distance `n`; `within_succ` and `sphere_succ` are what one level of a
breadth-first search does. `Bfs.nodes` is the search without a bound on the nodes, as the list of the
nodes in the order they are found.
-/

/-- A walk along the steps of a labelled graph. -/
inductive Walk {κ ε : Type} (step : κ → ε → κ → Prop) : κ → List ε → κ → Prop
  | nil (a : κ) : Walk step a [] a
  | cons {a b c : κ} {e : ε} {es : List ε} : step a e b → Walk step b es c → Walk step a (e :: es) c

namespace Walk

variable {κ ε : Type} {step : κ → ε → κ → Prop} {a b c : κ} {e : ε} {es es' : List ε}

theorem nil_iff : Walk step a [] b ↔ a = b :=
  ⟨fun h => by cases h; rfl, fun h => h ▸ .nil a⟩

theorem append (h : Walk step a es b) (h' : Walk step b es' c) : Walk step a (es ++ es') c := by
  induction h with
  | nil => exact h'
  | cons hstep _ ih => exact .cons hstep (ih h')

theorem snoc (h : Walk step a es b) (hstep : step b e c) : Walk step a (es ++ [e]) c :=
  h.append (.cons hstep (.nil c))

theorem of_append : ∀ {es : List ε} {a : κ}, Walk step a (es ++ es') c →
    ∃ b, Walk step a es b ∧ Walk step b es' c
  | [], a, h => ⟨a, .nil a, h⟩
  | _ :: es, a, h => by
    cases h with
    | cons hstep h =>
      obtain ⟨b, h1, h2⟩ := of_append h
      exact ⟨b, .cons hstep h1, h2⟩

theorem mono {step' : κ → ε → κ → Prop} (hmono : ∀ a e b, step a e b → step' a e b)
    (h : Walk step a es b) : Walk step' a es b := by
  induction h with
  | nil => exact .nil _
  | cons hstep _ ih => exact .cons (hmono _ _ _ hstep) ih

end Walk

/-! ## Distances -/

section Distance

variable {κ ε : Type} (step : κ → ε → κ → Prop)

/-- `b` is within `n` steps of `a`. -/
def Within (n : ℕ) (a b : κ) : Prop := ∃ es, Walk step a es b ∧ es.length ≤ n

/-- A walk no other walk is shorter than. -/
def Shortest (a : κ) (es : List ε) (b : κ) : Prop :=
  Walk step a es b ∧ ∀ es', Walk step a es' b → es.length ≤ es'.length

/-- `b` is at distance `n` from `a`. -/
def Sphere (n : ℕ) (a b : κ) : Prop := ∃ es, Shortest step a es b ∧ es.length = n

variable {step} {n : ℕ} {a b c : κ}

theorem within_zero : Within step 0 a b ↔ a = b := by
  constructor
  · rintro ⟨es, h, hlen⟩
    rw [List.eq_nil_of_length_eq_zero (Nat.le_zero.1 hlen)] at h
    exact Walk.nil_iff.1 h
  · intro h
    exact ⟨[], Walk.nil_iff.2 h, le_rfl⟩

theorem within_refl (n : ℕ) (a : κ) : Within step n a a := ⟨[], .nil a, Nat.zero_le _⟩

theorem Within.mono {m : ℕ} (h : Within step n a b) (hle : n ≤ m) : Within step m a b := by
  obtain ⟨es, hes, hlen⟩ := h
  exact ⟨es, hes, hlen.trans hle⟩

theorem sphere_zero : Sphere step 0 a b ↔ a = b := by
  constructor
  · rintro ⟨es, h, hlen⟩
    exact within_zero.1 ⟨es, h.1, hlen.le⟩
  · intro h
    exact ⟨[], ⟨Walk.nil_iff.2 h, fun _ _ => Nat.zero_le _⟩, rfl⟩

theorem Sphere.within (h : Sphere step n a b) : Within step n a b := by
  obtain ⟨es, hes, hlen⟩ := h
  exact ⟨es, hes.1, hlen.le⟩

theorem not_within_iff : ¬Within step n a b ↔ ∀ es, Walk step a es b → n < es.length := by
  simp [Within]

/-- A node within reach is at some distance. -/
theorem Within.sphere (h : Within step n a b) : ∃ m ≤ n, Sphere step m a b := by
  classical
  have hex : ∃ m, ∃ es, Walk step a es b ∧ es.length = m := by
    obtain ⟨es, hes, -⟩ := h
    exact ⟨es.length, es, hes, rfl⟩
  obtain ⟨es, hes, hlen⟩ := Nat.find_spec hex
  have hmin : ∀ es', Walk step a es' b → es.length ≤ es'.length := fun es' hes' => by
    rw [hlen]
    exact Nat.find_min' hex ⟨es', hes', rfl⟩
  obtain ⟨es', hes', hle⟩ := h
  exact ⟨es.length, (hmin es' hes').trans hle, es, ⟨hes, hmin⟩, rfl⟩

/-- A step from distance `n` to a node not within `n` steps. -/
theorem Shortest.snoc {es : List ε} {e : ε} (h : Shortest step a es b) (hstep : step b e c)
    (hc : ¬Within step es.length a c) : Shortest step a (es ++ [e]) c := by
  refine ⟨h.1.snoc hstep, fun es' hes' => ?_⟩
  rw [List.length_append, List.length_singleton]
  exact not_within_iff.1 hc es' hes'

/-- The next sphere: the steps out of the last one that leave the ball. -/
theorem sphere_succ : Sphere step (n + 1) a c ↔
    ¬Within step n a c ∧ ∃ b e, Sphere step n a b ∧ step b e c := by
  constructor
  · rintro ⟨es, ⟨hwalk, hmin⟩, hlen⟩
    have hout : ¬Within step n a c := by
      rintro ⟨es', hes', hle⟩
      have := hmin es' hes'
      omega
    refine ⟨hout, ?_⟩
    rcases List.eq_nil_or_concat es with rfl | ⟨init, e, rfl⟩
    · simp at hlen
    rw [List.concat_eq_append] at hwalk hmin hlen
    obtain ⟨b, hinit, hlast⟩ := hwalk.of_append
    cases hlast with
    | cons hstep hnil =>
      cases hnil
      refine ⟨b, e, ⟨init, ⟨hinit, fun es' hes' => ?_⟩, by simpa using hlen⟩, hstep⟩
      have := hmin (es' ++ [e]) (hes'.snoc hstep)
      simpa using this
  · rintro ⟨hout, b, e, ⟨es, hes, rfl⟩, hstep⟩
    exact ⟨es ++ [e], hes.snoc hstep hout, by simp⟩

/-- The next ball: the last one and the next sphere. -/
theorem within_succ : Within step (n + 1) a c ↔
    Within step n a c ∨ ∃ b e, Sphere step n a b ∧ step b e c := by
  constructor
  · intro h
    by_cases hc : Within step n a c
    · exact .inl hc
    · obtain ⟨m, hm, hsphere⟩ := h.sphere
      have hm : m = n + 1 := by
        by_contra hne
        exact hc (hsphere.within.mono (by omega))
      subst hm
      exact .inr (sphere_succ.1 hsphere).2
  · rintro (h | ⟨b, e, ⟨es, hes, hlen⟩, hstep⟩)
    · exact h.mono (by omega)
    · exact ⟨es ++ [e], hes.1.snoc hstep, by simp [hlen]⟩

/-- Past an empty sphere nothing is reached. -/
theorem within_of_sphere_empty (hempty : ∀ c, ¬Sphere step (n + 1) a c) {m : ℕ}
    (h : Within step m a b) : Within step n a b := by
  have hempty' : ∀ k c, ¬Sphere step (n + 1 + k) a c := by
    intro k
    induction k with
    | zero => exact hempty
    | succ k ih =>
      intro c hc
      obtain ⟨-, d, -, hd, -⟩ := sphere_succ.1 hc
      exact ih d hd
  obtain ⟨m, -, hsphere⟩ := h.sphere
  rcases Nat.lt_or_ge n m with hlt | hge
  · obtain ⟨k, rfl⟩ := Nat.exists_eq_add_of_le (Nat.succ_le_of_lt hlt)
    exact absurd hsphere (hempty' k b)
  · exact hsphere.within.mono hge

/-- The distance is the least length of a walk. -/
theorem sphere_iff : Sphere step n a b ↔
    (∃ es, Walk step a es b ∧ es.length = n) ∧ ∀ m, (∃ es, Walk step a es b ∧ es.length = m) → n ≤ m := by
  constructor
  · rintro ⟨es, ⟨hwalk, hmin⟩, rfl⟩
    refine ⟨⟨es, hwalk, rfl⟩, ?_⟩
    rintro m ⟨es', hwalk', rfl⟩
    exact hmin es' hwalk'
  · rintro ⟨⟨es, hwalk, rfl⟩, hmin⟩
    exact ⟨es, ⟨hwalk, fun es' hwalk' => hmin _ ⟨es', hwalk', rfl⟩⟩, rfl⟩

theorem Sphere.unique {m : ℕ} (h : Sphere step n a b) (h' : Sphere step m a b) : n = m := by
  obtain ⟨hwalk, hmin⟩ := sphere_iff.1 h
  obtain ⟨hwalk', hmin'⟩ := sphere_iff.1 h'
  exact (hmin m hwalk').antisymm (hmin' n hwalk)

section Relabel
variable {κ' ε' : Type} {step' : κ' → ε' → κ' → Prop} {f : κ → κ'}
  (hstep : ∀ a c, (∃ e, step' (f a) e c) ↔ ∃ b, c = f b ∧ ∃ e, step a e b)

include hstep

/-- The walks of a graph and of its copy under other names. -/
theorem exists_walk_relabel (c : κ') : (∃ es, Walk step' (f a) es c ∧ es.length = n) ↔
    ∃ b, c = f b ∧ ∃ es, Walk step a es b ∧ es.length = n := by
  induction n generalizing a with
  | zero =>
    simp only [List.length_eq_zero_iff, exists_eq_right, Walk.nil_iff]
    constructor
    · rintro rfl
      exact ⟨a, rfl, rfl⟩
    · rintro ⟨b, rfl, rfl⟩
      rfl
  | succ n ih =>
    constructor
    · rintro ⟨es, hwalk, hlen⟩
      cases hwalk with
      | nil => cases hlen
      | cons hfirst hrest =>
        obtain ⟨b, rfl, e, he⟩ := (hstep _ _).1 ⟨_, hfirst⟩
        obtain ⟨d, rfl, es', hes', hlen'⟩ := (ih (a := b)).1 ⟨_, hrest, Nat.succ.inj hlen⟩
        exact ⟨d, rfl, e :: es', .cons he hes', by rw [List.length_cons, hlen']⟩
    · rintro ⟨d, rfl, es, hwalk, hlen⟩
      cases hwalk with
      | nil => cases hlen
      | @cons _ b _ e es hfirst hrest =>
        obtain ⟨e', he'⟩ := (hstep _ _).2 ⟨b, rfl, e, hfirst⟩
        obtain ⟨es', hes', hlen'⟩ := (ih (a := b)).2 ⟨d, rfl, es, hrest, Nat.succ.inj hlen⟩
        exact ⟨e' :: es', .cons he' hes', by rw [List.length_cons, hlen']⟩

/-- Other names keep the distances. -/
theorem sphere_relabel (c : κ') (hf : Function.Injective f) :
    Sphere step' n (f a) c ↔ ∃ b, c = f b ∧ Sphere step n a b := by
  have hwalks : ∀ m, (∃ es, Walk step' (f a) es c ∧ es.length = m) ↔
      ∃ b, c = f b ∧ ∃ es, Walk step a es b ∧ es.length = m := fun m => exists_walk_relabel hstep c
  rw [sphere_iff]
  constructor
  · rintro ⟨hwalk, hmin⟩
    obtain ⟨b, rfl, hb⟩ := (hwalks n).1 hwalk
    exact ⟨b, rfl, sphere_iff.2 ⟨hb, fun m hm => hmin m ((hwalks m).2 ⟨b, rfl, hm⟩)⟩⟩
  · rintro ⟨b, rfl, hb⟩
    obtain ⟨hwalk, hmin⟩ := sphere_iff.1 hb
    refine ⟨(hwalks n).2 ⟨b, rfl, hwalk⟩, fun m hm => hmin m ?_⟩
    obtain ⟨b', hbb', hm⟩ := (hwalks m).1 hm
    exact hf hbb' ▸ hm

end Relabel

end Distance

/-! ## The order of discovery -/

namespace Bfs

variable {α κ : Type} [DecidableEq κ] (key : α → κ)

/-- The entries of a list with a new key, each key once. -/
def discover (seen : List α) : List α → List α
  | [] => []
  | x :: xs => if key x ∈ seen.map key then discover seen xs else x :: discover (seen ++ [x]) xs

variable {key}

theorem discover_cons (seen : List α) (x : α) (xs : List α) : discover key seen (x :: xs) =
    if key x ∈ seen.map key then discover key seen xs else x :: discover key (seen ++ [x]) xs := rfl

theorem discover_append (seen xs ys : List α) : discover key seen (xs ++ ys) =
    discover key seen xs ++ discover key (seen ++ discover key seen xs) ys := by
  induction xs generalizing seen with
  | nil => simp [discover]
  | cons x xs ih =>
    rw [List.cons_append, discover_cons, discover_cons]
    by_cases h : key x ∈ seen.map key
    · simp only [h, if_true, ih]
    · simp only [h, if_false, ih, List.cons_append, List.append_assoc, List.nil_append]

theorem mem_keys_discover {seen xs : List α} {k : κ} :
    k ∈ (seen ++ discover key seen xs).map key ↔ k ∈ seen.map key ∨ k ∈ xs.map key := by
  induction xs generalizing seen with
  | nil => simp [discover]
  | cons x xs ih =>
    unfold discover
    by_cases h : key x ∈ seen.map key
    · simp only [h, if_true, ih, List.map_cons, List.mem_cons]
      grind
    · rw [if_neg h, List.append_cons, ih]
      simp only [List.map_append, List.map_cons, List.map_nil, List.mem_append, List.mem_cons,
        List.not_mem_nil, or_false]
      grind

theorem mem_of_mem_discover {seen xs : List α} {x : α} (h : x ∈ discover key seen xs) : x ∈ xs := by
  induction xs generalizing seen with
  | nil => cases h
  | cons y xs ih =>
    unfold discover at h
    split at h
    · exact .tail _ (ih h)
    · rcases List.mem_cons.1 h with rfl | h
      · exact .head _
      · exact .tail _ (ih h)

theorem nodup_discover {seen xs : List α} (h : (seen.map key).Nodup) :
    ((seen ++ discover key seen xs).map key).Nodup := by
  induction xs generalizing seen with
  | nil => simpa [discover] using h
  | cons x xs ih =>
    unfold discover
    split
    · exact ih h
    · rename_i hx
      rw [List.append_cons]
      refine ih ?_
      rw [List.map_append, List.map_singleton]
      exact List.nodup_append.2 ⟨h, List.nodup_singleton _, fun k hk k' hk' hkk => by
        rw [List.mem_singleton] at hk'
        exact hx (hk' ▸ hkk ▸ hk)⟩

variable (key) (next : κ → List α) (root : α)

/-- The nodes found within `n` levels, and those of the last level. -/
def levels : ℕ → List α × List α
  | 0 => ([root], [root])
  | n + 1 =>
    let (nodes, frontier) := levels n
    let found := discover key nodes (frontier.flatMap fun x => next (key x))
    (nodes ++ found, found)

/-- The nodes within `n` steps of the root, in the order they are found. -/
def nodes (n : ℕ) : List α := (levels key next root n).1

def frontier (n : ℕ) : List α := (levels key next root n).2

/-- The nodes whose neighbors the first `n` levels ask for. -/
def inner : ℕ → List α
  | 0 => []
  | n + 1 => nodes key next root n

variable {key next root}

theorem nodes_zero : nodes key next root 0 = [root] := rfl

theorem frontier_zero : frontier key next root 0 = [root] := rfl

theorem frontier_succ (n : ℕ) : frontier key next root (n + 1) =
    discover key (nodes key next root n)
      ((frontier key next root n).flatMap fun x => next (key x)) := rfl

theorem nodes_succ (n : ℕ) : nodes key next root (n + 1) =
    nodes key next root n ++ frontier key next root (n + 1) := rfl

theorem inner_succ (n : ℕ) : inner key next root (n + 1) =
    inner key next root n ++ frontier key next root n := by
  cases n with
  | zero => rfl
  | succ n => exact nodes_succ n

theorem head_nodes (n : ℕ) : ∃ rest, nodes key next root n = root :: rest := by
  induction n with
  | zero => exact ⟨[], rfl⟩
  | succ n ih =>
    obtain ⟨rest, hrest⟩ := ih
    exact ⟨rest ++ frontier key next root (n + 1), by rw [nodes_succ, hrest, List.cons_append]⟩

theorem nodup_nodes (n : ℕ) : ((nodes key next root n).map key).Nodup := by
  induction n with
  | zero => simp [nodes_zero]
  | succ n ih => exact nodup_discover ih

/-- All the nodes found are the root and the neighbors asked for. -/
theorem nodes_eq_discover (n : ℕ) : nodes key next root n =
    root :: discover key [root] ((inner key next root n).flatMap fun x => next (key x)) := by
  induction n with
  | zero => rfl
  | succ n ih =>
    rw [inner_succ, List.flatMap_append, discover_append, nodes_succ, frontier_succ]
    rw [← List.cons_append, ← ih]
    congr 1
    rw [ih]
    rfl

/-- The last level is what is past the inner nodes. -/
theorem nodes_eq_inner_append (n : ℕ) :
    nodes key next root n = inner key next root n ++ frontier key next root n := by
  cases n with
  | zero => rfl
  | succ n => exact nodes_succ n

section Finite
variable {keys : List κ} (hroot : key root ∈ keys)
  (hclosed : ∀ k ∈ keys, ∀ x ∈ next k, key x ∈ keys)

include hroot hclosed

theorem nodes_subset (n : ℕ) : (nodes key next root n).map key ⊆ keys := by
  induction n with
  | zero => simpa [nodes_zero] using hroot
  | succ n ih =>
    rw [nodes_succ, List.map_append]
    refine List.append_subset.2 ⟨ih, fun k hk => ?_⟩
    obtain ⟨y, hy, rfl⟩ := List.mem_map.1 hk
    rw [frontier_succ] at hy
    obtain ⟨x, hx, hy⟩ := List.mem_flatMap.1 (mem_of_mem_discover hy)
    have hx : x ∈ nodes key next root n := by
      rw [nodes_eq_inner_append]
      exact List.mem_append_right _ hx
    exact hclosed _ (ih (List.mem_map_of_mem hx)) y hy

theorem length_nodes_le (n : ℕ) : (nodes key next root n).length ≤ keys.length := by
  have hsub := List.subperm_of_subset (nodup_nodes n) (nodes_subset hroot hclosed n)
  simpa using hsub.length_le

/-- Among finitely many nodes the search comes to its end. -/
theorem exists_frontier_nil : ∃ n, frontier key next root n = [] := by
  by_contra hnone
  push Not at hnone
  have hlt : ∀ n, n < (nodes key next root n).length := by
    intro n
    induction n with
    | zero => simp [nodes_zero]
    | succ n ih =>
      have := List.length_pos_iff.2 (hnone (n + 1))
      rw [nodes_succ, List.length_append]
      omega
  exact absurd (length_nodes_le hroot hclosed keys.length) (not_le.2 (hlt _))

end Finite

/-- Past its end the search finds nothing. -/
theorem frontier_nil_of_le {n m : ℕ} (h : frontier key next root n = []) (hle : n ≤ m) :
    frontier key next root m = [] := by
  induction m, hle using Nat.le_induction with
  | base => exact h
  | succ m _ ih =>
    rw [frontier_succ, ih]
    rfl

variable {ε : Type} {step : κ → ε → κ → Prop}
  (hnext : ∀ a b, b ∈ (next a).map key ↔ ∃ e, step a e b)

include hnext

theorem mem_nodes_frontier (n : ℕ) :
    (∀ k, k ∈ (nodes key next root n).map key ↔ Within step n (key root) k) ∧
      ∀ k, k ∈ (frontier key next root n).map key ↔ Sphere step n (key root) k := by
  induction n with
  | zero => simp [nodes_zero, frontier_zero, within_zero, sphere_zero, eq_comm]
  | succ n ih =>
    obtain ⟨hnodes, hfrontier⟩ := ih
    have hasked : ∀ k, k ∈ ((frontier key next root n).flatMap fun x => next (key x)).map key ↔
        ∃ b e, Sphere step n (key root) b ∧ step b e k := by
      intro k
      rw [List.map_flatMap, List.mem_flatMap]
      constructor
      · rintro ⟨x, hx, hk⟩
        obtain ⟨e, he⟩ := (hnext (key x) k).1 hk
        exact ⟨key x, e, (hfrontier _).1 (List.mem_map_of_mem hx), he⟩
      · rintro ⟨b, e, hb, he⟩
        obtain ⟨x, hx, rfl⟩ := List.mem_map.1 ((hfrontier b).2 hb)
        exact ⟨x, hx, (hnext _ _).2 ⟨e, he⟩⟩
    have hnodes' : ∀ k, k ∈ (nodes key next root (n + 1)).map key ↔
        Within step (n + 1) (key root) k := by
      intro k
      rw [nodes_succ, frontier_succ, mem_keys_discover, hnodes, hasked, within_succ]
    refine ⟨hnodes', fun k => ?_⟩
    -- the last level is what is not within `n` steps
    have hdisjoint : ((nodes key next root (n + 1)).map key).Nodup := nodup_nodes (n + 1)
    rw [nodes_succ, List.map_append, List.nodup_append] at hdisjoint
    have hmem := hnodes' k
    rw [nodes_succ, List.map_append, List.mem_append, hnodes, within_succ] at hmem
    rw [sphere_succ]
    constructor
    · intro hk
      have hout : ¬Within step n (key root) k := fun hin =>
        hdisjoint.2.2 k ((hnodes k).2 hin) k hk rfl
      exact ⟨hout, (hmem.1 (.inr hk)).resolve_left hout⟩
    · rintro ⟨hout, hk⟩
      exact (hmem.2 (.inr hk)).resolve_left hout

/-- The search finds the nodes within `n` steps. -/
theorem mem_nodes {n : ℕ} {k : κ} :
    k ∈ (nodes key next root n).map key ↔ Within step n (key root) k :=
  (mem_nodes_frontier hnext n).1 k

end Bfs
