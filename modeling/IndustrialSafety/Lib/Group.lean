import IndustrialSafety.Lib.FirstOccurrence
import Mathlib.Algebra.GroupWithZero.Nat
import Mathlib.Data.Finset.Card
import Mathlib.Data.List.Perm.Basic

/-!
# Grouping by a key

`Group.group`: the values of each key, keys and values in the order of their first and of every
occurrence. Nothing is lost (`group_perm`) and no key occurs twice (`group_keys_nodup`).
-/

namespace Group

variable {κ α : Type} [DecidableEq κ]

/-- Append `v` to the group of `k`, a new group if there is none. -/
def insert (k : κ) (v : α) : List (κ × List α) → List (κ × List α)
  | [] => [(k, [v])]
  | (k', vs) :: groups =>
    if k' = k then (k', vs ++ [v]) :: groups else (k', vs) :: insert k v groups

def group (l : List (κ × α)) : List (κ × List α) :=
  l.foldl (fun groups p => insert p.1 p.2 groups) []

/-- The pairs of the groups. -/
def ungroup (groups : List (κ × List α)) : List (κ × α) :=
  groups.flatMap fun g => g.2.map fun v => (g.1, v)

omit [DecidableEq κ] in
@[simp] theorem ungroup_cons (g : κ × List α) (groups : List (κ × List α)) :
    ungroup (g :: groups) = (g.2.map fun v => (g.1, v)) ++ ungroup groups := rfl

theorem ungroup_insert (k : κ) (v : α) (groups : List (κ × List α)) :
    (ungroup (insert k v groups)).Perm ((k, v) :: ungroup groups) := by
  induction groups with
  | nil => exact .refl _
  | cons g groups ih =>
    obtain ⟨k', vs⟩ := g
    unfold insert
    split
    · rename_i h
      subst h
      simp only [ungroup_cons, List.map_append, List.map_cons, List.map_nil, List.append_assoc,
        List.singleton_append]
      exact List.perm_middle
    · rw [ungroup_cons, ungroup_cons]
      exact (ih.append_left _).trans List.perm_middle

/-- Grouping loses and adds nothing. -/
theorem group_perm (l : List (κ × α)) : (ungroup (group l)).Perm l := by
  have hfold : ∀ groups : List (κ × List α),
      (ungroup (l.foldl (fun groups p => insert p.1 p.2 groups) groups)).Perm
        (ungroup groups ++ l) := by
    induction l with
    | nil => simp
    | cons p l ih =>
      intro groups
      rw [List.foldl_cons]
      refine (ih _).trans (((ungroup_insert p.1 p.2 groups).append_right l).trans ?_)
      exact List.perm_middle.symm
  exact hfold []

theorem map_fst_insert (k : κ) (v : α) (groups : List (κ × List α)) :
    (insert k v groups).map Prod.fst =
      if k ∈ groups.map Prod.fst then groups.map Prod.fst else groups.map Prod.fst ++ [k] := by
  induction groups with
  | nil => simp [insert]
  | cons g groups ih =>
    obtain ⟨k', vs⟩ := g
    unfold insert
    by_cases h : k' = k
    · simp [h]
    · have h' : ¬k = k' := fun e => h e.symm
      simp only [h, ↓reduceIte, List.map_cons, ih, List.mem_cons, h', false_or]
      split <;> rfl

/-- The keys of the groups stand in the order of their first occurrences. -/
theorem map_fst_group (l : List (κ × α)) : (group l).map Prod.fst = (l.map Prod.fst).eraseDups := by
  induction l using List.reverseRecOn with
  | nil => rfl
  | append_singleton l p ih =>
    have hinsert : group (l ++ [p]) = insert p.1 p.2 (group l) := List.foldl_concat _ _ _ _
    rw [hinsert, map_fst_insert, List.map_append, List.map_singleton, FirstOccurrence.eraseDups_concat,
      ih]
    simp only [List.mem_eraseDups]

/-- The keys of the groups are the keys of the pairs. -/
theorem mem_group_keys {l : List (κ × α)} {k : κ} :
    k ∈ (group l).map Prod.fst ↔ k ∈ l.map Prod.fst := by
  rw [map_fst_group, List.mem_eraseDups]

/-- Every group has a value. -/
theorem group_ne_nil {l : List (κ × α)} : ∀ g ∈ group l, g.2 ≠ [] := by
  have hinsert : ∀ (k : κ) (v : α) (groups : List (κ × List α)), (∀ g ∈ groups, g.2 ≠ []) →
      ∀ g ∈ insert k v groups, g.2 ≠ [] := by
    intro k v groups h
    induction groups with
    | nil => simp [insert]
    | cons g groups ih =>
      obtain ⟨k', vs⟩ := g
      rw [List.forall_mem_cons] at h
      unfold insert
      split
      · exact List.forall_mem_cons.2 ⟨by simp, h.2⟩
      · exact List.forall_mem_cons.2 ⟨h.1, ih h.2⟩
  exact List.foldlRecOn l _ (by simp) fun groups h p _ => hinsert p.1 p.2 groups h

theorem group_keys_nodup (l : List (κ × α)) : ((group l).map Prod.fst).Nodup := by
  rw [map_fst_group]
  exact FirstOccurrence.eraseDups_nodup _

theorem mem_insert {k k' : κ} {v : α} {vs : List α} {groups : List (κ × List α)}
    (hnodup : (groups.map Prod.fst).Nodup) (h : (k, vs) ∈ insert k' v groups) :
    (k ≠ k' ∧ (k, vs) ∈ groups) ∨
      k = k' ∧ (k' ∉ groups.map Prod.fst ∧ vs = [v] ∨ ∃ vs', (k', vs') ∈ groups ∧ vs = vs' ++ [v]) := by
  induction groups with
  | nil =>
    cases List.mem_singleton.1 h
    exact .inr ⟨rfl, .inl ⟨List.not_mem_nil, rfl⟩⟩
  | cons g groups ih =>
    obtain ⟨k₀, vs₀⟩ := g
    rw [List.map_cons, List.nodup_cons] at hnodup
    unfold insert at h
    split at h
    case isTrue hk₀ =>
      subst hk₀
      rcases List.mem_cons.1 h with h | hold
      · cases h
        exact .inr ⟨rfl, .inr ⟨vs₀, .head _, rfl⟩⟩
      · exact .inl ⟨fun hk => hnodup.1 (List.mem_map.2 ⟨_, hold, hk⟩), .tail _ hold⟩
    case isFalse hk₀ =>
      rcases List.mem_cons.1 h with h | h
      · cases h
        exact .inl ⟨hk₀, .head _⟩
      · rcases ih hnodup.2 h with ⟨hk, hold⟩ | ⟨rfl, ⟨hnew, rfl⟩ | ⟨vs', hold, rfl⟩⟩
        · exact .inl ⟨hk, .tail _ hold⟩
        · exact .inr ⟨rfl, .inl ⟨fun hmem => (List.mem_cons.1 hmem).elim (Ne.symm hk₀) hnew, rfl⟩⟩
        · exact .inr ⟨rfl, .inr ⟨vs', .tail _ hold, rfl⟩⟩

/-- A group has the values of its key, in their order. -/
theorem values_eq {l : List (κ × α)} {k : κ} {vs : List α} (h : (k, vs) ∈ group l) :
    vs = (l.filter (·.1 = k)).map Prod.snd := by
  induction l using List.reverseRecOn generalizing vs with
  | nil => cases h
  | append_singleton l p ih =>
    rw [group, List.foldl_concat] at h
    rw [List.filter_append, List.map_append]
    rcases mem_insert (group_keys_nodup l) h with ⟨hk, hold⟩ | ⟨rfl, ⟨hnew, rfl⟩ | ⟨vs', hold, rfl⟩⟩
    · rw [ih hold]
      simp [Ne.symm hk]
    · have hnone : l.filter (·.1 = p.1) = [] := by
        rw [List.filter_eq_nil_iff]
        intro q hq
        have hkey := mem_group_keys.2 (List.mem_map_of_mem (f := Prod.fst) hq)
        simpa using fun hsame : q.1 = p.1 => hnew (hsame ▸ hkey)
      rw [hnone]
      simp
    · rw [ih hold]
      simp

/-- The groups are the values of the keys that have one. -/
theorem mem_group {l : List (κ × α)} {k : κ} {vs : List α} :
    (k, vs) ∈ group l ↔ vs ≠ [] ∧ vs = (l.filter (·.1 = k)).map Prod.snd := by
  constructor
  · exact fun h => ⟨group_ne_nil _ h, values_eq h⟩
  · rintro ⟨hne, hvs⟩
    obtain ⟨v, hv⟩ := List.exists_mem_of_ne_nil vs hne
    rw [hvs] at hv
    obtain ⟨p, hp, -⟩ := List.mem_map.1 hv
    obtain ⟨hp, hk⟩ := List.mem_filter.1 hp
    obtain ⟨⟨k', vs'⟩, hgroup, rfl⟩ := List.mem_map.1
      (mem_group_keys.2 (List.mem_map_of_mem (f := Prod.fst) hp))
    obtain rfl : p.1 = k := of_decide_eq_true hk
    rw [hvs, ← values_eq hgroup]
    exact hgroup

/-- The groups depend on the values of each key; their order depends on more. -/
theorem group_perm_of_filter {l l' : List (κ × α)}
    (h : ∀ k, l.filter (·.1 = k) = l'.filter (·.1 = k)) : (group l).Perm (group l') := by
  have hnodup : ∀ l : List (κ × α), (group l).Nodup := fun l =>
    List.Nodup.of_map Prod.fst (group_keys_nodup l)
  refine (List.perm_ext_iff_of_nodup (hnodup l) (hnodup l')).2 fun g => ?_
  obtain ⟨k, vs⟩ := g
  rw [mem_group, mem_group, h k]

/-- The elements of each key, over keys that cover the list. -/
theorem flatMap_filter_perm {key : α → κ} {keys : List κ} (hnodup : keys.Nodup) {l : List α}
    (h : ∀ a ∈ l, key a ∈ keys) : (keys.flatMap fun k => l.filter (key · = k)).Perm l := by
  induction keys generalizing l with
  | nil =>
    cases l with
    | nil => exact .nil
    | cons a l => exact absurd (h a List.mem_cons_self) List.not_mem_nil
  | cons k keys ih =>
    obtain ⟨hk, hnodup⟩ := List.nodup_cons.1 hnodup
    have hrest := ih hnodup (l := l.filter fun a => !decide (key a = k)) fun a ha => by
      obtain ⟨ha, hne⟩ := List.mem_filter.1 ha
      exact (List.mem_cons.1 (h a ha)).resolve_left (by simpa using hne)
    have hsame : (keys.flatMap fun k' => l.filter (key · = k')) =
        keys.flatMap fun k' => (l.filter fun a => !decide (key a = k)).filter (key · = k') := by
      refine List.flatMap_congr fun k' hk' => ?_
      rw [List.filter_filter]
      refine List.filter_congr fun a _ => ?_
      by_cases ha : key a = k'
      · have hne : key a ≠ k := fun heq => hk (heq ▸ ha ▸ hk')
        simpa [ha] using fun heq => hne (ha.trans heq)
      · simp [ha]
    rw [List.flatMap_cons, hsame]
    exact (hrest.append_left _).trans (List.filter_append_perm _ l)

omit [DecidableEq κ] in
theorem mem_ungroup {groups : List (κ × List α)} {p : κ × α} :
    p ∈ ungroup groups → p.1 ∈ groups.map Prod.fst := by
  intro h
  obtain ⟨g, hg, hp⟩ := List.mem_flatMap.1 h
  obtain ⟨v, -, rfl⟩ := List.mem_map.1 hp
  exact List.mem_map_of_mem hg

/-- The distinct values of the groups are the distinct pairs. -/
theorem sum_card_group [DecidableEq α] (l : List (κ × α)) :
    ((group l).map fun g => g.2.toFinset.card).sum = l.toFinset.card := by
  rw [← List.toFinset_eq_of_perm _ _ (group_perm l)]
  have hnodup := group_keys_nodup l
  generalize group l = groups at hnodup
  induction groups with
  | nil => rfl
  | cons g groups ih =>
    obtain ⟨hnew, hnodup⟩ := List.nodup_cons.1 hnodup
    have hdisjoint : Disjoint (g.2.map fun v => (g.1, v)).toFinset (ungroup groups).toFinset := by
      rw [Finset.disjoint_left]
      intro p hp hp'
      obtain ⟨v, -, rfl⟩ := List.mem_map.1 (List.mem_toFinset.1 hp)
      exact hnew (mem_ungroup (List.mem_toFinset.1 hp'))
    have hcard : (g.2.map fun v => (g.1, v)).toFinset.card = g.2.toFinset.card := by
      rw [← Finset.card_image_of_injective g.2.toFinset (f := fun v => (g.1, v)) fun _ _ h =>
        (Prod.mk.inj h).2]
      congr 1
      ext p
      simp
    rw [List.map_cons, List.sum_cons, ih hnodup, ungroup_cons, List.toFinset_append,
      Finset.card_union_of_disjoint hdisjoint, hcard]

end Group
