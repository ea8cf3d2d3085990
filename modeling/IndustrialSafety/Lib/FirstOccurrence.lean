import IndustrialSafety.Lib.Result
import Mathlib.Data.List.Induction
import Mathlib.Data.List.Nodup

/-!
# Adding what is new

A list that grows by the elements whose key it does not have yet. Where the elements are looked up by
their keys, the keys of a list add its recognised elements in the order of their first occurrence.
Without its repetitions, a list keeps that order (`idxOf_eraseDups`), and the lists of what its elements
stand for lose nothing by it (`eraseDups_flatMap_eraseDups`). Lists that a label tells apart have no
repetition together iff none of them has one (`nodup_flatten_of_label`).
-/

namespace FirstOccurrence

variable {κ α : Type} [DecidableEq κ]

/-- `xs` with `x` at its end, unless it has an element of that key. -/
def addNew (key : α → κ) (xs : List α) (x : α) : List α :=
  if key x ∈ xs.map key then xs else xs ++ [x]

/-- The element of a key, where there is one, is added. -/
def addFound (find : κ → Option α) (key : α → κ) (xs : List α) (k : κ) : List α :=
  (find k).elim xs (addNew key xs)

variable {find : κ → Option α} {key : α → κ} {xs : List α}

theorem addNew_nodup (h : (xs.map key).Nodup) (x : α) : ((addNew key xs x).map key).Nodup := by
  unfold addNew
  split
  case isTrue => exact h
  case isFalse hnew =>
    rw [List.map_append, List.map_cons, List.map_nil]
    exact List.Nodup.append h (List.nodup_singleton _) (List.disjoint_singleton.2 hnew)

theorem foldl_addFound_nodup (h : (xs.map key).Nodup) (ks : List κ) :
    ((ks.foldl (addFound find key) xs).map key).Nodup := by
  induction ks generalizing xs with
  | nil => exact h
  | cons k ks ih =>
    refine ih ?_
    unfold addFound
    cases find k with
    | none => exact h
    | some x => exact addNew_nodup h x

/-- The elements of the keys, each where its key first occurs. -/
theorem foldl_addFound (hkey : ∀ k x, find k = some x → key x = k)
    (hxs : ∀ x ∈ xs, find (key x) = none) (ks : List κ) :
    ks.foldl (addFound find key) xs = xs ++ ks.eraseDups.filterMap find := by
  induction ks using List.reverseRecOn with
  | nil => simp
  | append_singleton ks k ih =>
    rw [List.foldl_concat, ih, List.eraseDups_append, List.filterMap_append, ← List.append_assoc,
      addFound]
    cases hk : find k with
    | none =>
      by_cases hmem : k ∈ ks <;> simp [List.removeAll, hmem, hk]
    | some x =>
      have hnew : key x ∈ (xs ++ ks.eraseDups.filterMap find).map key ↔ k ∈ ks := by
        rw [hkey k x hk, List.mem_map]
        constructor
        · rintro ⟨y, hy, rfl⟩
          rcases List.mem_append.1 hy with hy | hy
          · rw [hxs y hy] at hk
            cases hk
          · obtain ⟨k', hk', hfind⟩ := List.mem_filterMap.1 hy
            rw [hkey k' y hfind]
            exact List.mem_eraseDups.1 hk'
        · exact fun hmem => ⟨x, List.mem_append_right _
            (List.mem_filterMap.2 ⟨k, List.mem_eraseDups.2 hmem, hk⟩), hkey k x hk⟩
      rw [Option.elim_some, addNew]
      by_cases hmem : k ∈ ks
      · rw [if_pos (hnew.2 hmem)]
        simp [List.removeAll, hmem]
      · rw [if_neg (mt hnew.1 hmem)]
        simp [List.removeAll, hmem, List.eraseDups_cons, hk]

/-! ## A list without its repetitions -/

section
variable {β : Type} [DecidableEq β]

theorem eraseDups_concat (xs : List κ) (x : κ) :
    (xs ++ [x]).eraseDups = if x ∈ xs then xs.eraseDups else xs.eraseDups ++ [x] := by
  rw [List.eraseDups_append]
  by_cases hmem : x ∈ xs
  · simp [List.removeAll, hmem]
  · simp [List.removeAll, hmem, List.eraseDups_cons]

theorem eraseDups_nodup (xs : List κ) : xs.eraseDups.Nodup := by
  induction xs using List.reverseRecOn with
  | nil => simp
  | append_singleton xs x ih =>
    rw [eraseDups_concat]
    split
    case isTrue => exact ih
    case isFalse hnew =>
      exact ih.append (List.nodup_singleton x)
        (List.disjoint_singleton.2 (mt List.mem_eraseDups.1 hnew))

/-- A new element at the end comes after all the others. -/
theorem idxOf_concat_lt {l : List κ} {x a b : κ} (hx : x ∉ l) (ha : a ∈ l ++ [x])
    (hb : b ∈ l ++ [x]) : (l ++ [x]).idxOf a < (l ++ [x]).idxOf b ↔
      a ∈ l ∧ (b ∈ l → l.idxOf a < l.idxOf b) := by
  have hlast : (l ++ [x]).idxOf x = l.length := by simp [List.idxOf_append_of_notMem hx]
  rcases List.mem_append.1 ha with hal | hax
  · have hlength := List.idxOf_lt_length_of_mem hal
    rw [List.idxOf_append_of_mem hal]
    rcases List.mem_append.1 hb with hbl | hbx
    · rw [List.idxOf_append_of_mem hbl]
      exact ⟨fun h => ⟨hal, fun _ => h⟩, fun h => h.2 hbl⟩
    · obtain rfl := List.mem_singleton.1 hbx
      rw [hlast]
      exact iff_of_true hlength ⟨hal, fun hbl => absurd hbl hx⟩
  · obtain rfl := List.mem_singleton.1 hax
    refine iff_of_false (fun h => ?_) fun h => hx h.1
    have hlength := List.idxOf_lt_length_of_mem hb
    rw [hlast] at h
    rw [List.length_append, List.length_singleton] at hlength
    omega

/-- The elements stay in the order of their first occurrences. -/
theorem idxOf_eraseDups {xs : List κ} {a b : κ} (ha : a ∈ xs) (hb : b ∈ xs) :
    xs.eraseDups.idxOf a < xs.eraseDups.idxOf b ↔ xs.idxOf a < xs.idxOf b := by
  induction xs using List.reverseRecOn with
  | nil => cases ha
  | append_singleton xs x ih =>
    have hmem : ∀ y, y ∈ xs.eraseDups ↔ y ∈ xs := fun _ => List.mem_eraseDups
    rw [eraseDups_concat]
    split
    case isTrue hx =>
      have hold : ∀ y ∈ xs ++ [x], y ∈ xs := by
        intro y hy
        rcases List.mem_append.1 hy with hy | hy
        · exact hy
        · exact List.mem_singleton.1 hy ▸ hx
      rw [List.idxOf_append_of_mem (hold a ha), List.idxOf_append_of_mem (hold b hb)]
      exact ih (hold a ha) (hold b hb)
    case isFalse hx =>
      rw [idxOf_concat_lt hx ha hb, idxOf_concat_lt (mt (hmem x).1 hx) (by simpa using ha)
        (by simpa using hb), hmem, hmem]
      exact and_congr_right fun ha => forall_congr' fun hb => ih ha hb

/-- Repetitions of elements add nothing to what the elements stand for. -/
theorem eraseDups_flatMap_eraseDups (f : κ → List β) (xs : List κ) :
    (xs.eraseDups.flatMap f).eraseDups = (xs.flatMap f).eraseDups := by
  induction xs using List.reverseRecOn with
  | nil => rfl
  | append_singleton xs x ih =>
    have hmem : ∀ y, y ∈ xs.eraseDups.flatMap f ↔ y ∈ xs.flatMap f := by simp
    rw [eraseDups_concat, List.flatMap_append, List.eraseDups_append]
    split
    case isTrue hx =>
      have hnone : (f x).removeAll (xs.flatMap f) = [] := by
        rw [List.removeAll, List.filter_eq_nil_iff]
        intro y hy
        simpa using ⟨x, hx, hy⟩
      rw [ih, List.flatMap_singleton, hnone, List.eraseDups_nil, List.append_nil]
    case isFalse =>
      have hrest : (f x).removeAll (xs.eraseDups.flatMap f) = (f x).removeAll (xs.flatMap f) :=
        List.filter_congr fun y _ => by simp
      rw [List.flatMap_append, List.eraseDups_append, ih, List.flatMap_singleton, hrest]

/-- Where each element stands for one thing, the things keep an order that their first elements have. -/
theorem pairwise_eraseDups_flatMap {r : β → β → Prop} {f : α → List β} {l : List α}
    (hone : ∀ x ∈ l, ∀ y ∈ f x, ∀ y' ∈ f x, y = y')
    (h : ∀ front x, front ++ [x] <+: l → ∀ y ∈ f x, y ∉ front.flatMap f →
      ∀ y' ∈ front.flatMap f, r y' y) : (l.flatMap f).eraseDups.Pairwise r := by
  induction l using List.reverseRecOn with
  | nil => simp
  | append_singleton l x ih =>
    rw [List.forall_mem_append] at hone
    have ih := ih hone.1 fun front x hx => h front x (hx.trans (List.prefix_append l _))
    rw [List.flatMap_append, List.flatMap_singleton, List.eraseDups_append]
    have hmem : ∀ y ∈ ((f x).removeAll (l.flatMap f)).eraseDups, y ∈ f x ∧ y ∉ l.flatMap f := by
      intro y hy
      rw [List.mem_eraseDups, List.removeAll, List.mem_filter] at hy
      exact ⟨hy.1, by simpa using hy.2⟩
    refine List.pairwise_append.2 ⟨ih, ?_, fun y' hy' y hy => ?_⟩
    · exact (eraseDups_nodup _).imp_of_mem fun hy hy' hne =>
        absurd (hone.2 x (by simp) _ (hmem _ hy).1 _ (hmem _ hy').1) hne
    · obtain ⟨hy, hnew⟩ := hmem y hy
      exact h l x (List.prefix_refl _) y hy hnew y' (List.mem_eraseDups.1 hy')

end

/-! ## Labels -/

theorem pairwise_disjoint_of_label {α β : Type} {label : α → β} {labels : List β} {ls : List (List α)}
    (h : List.Forall₂ (fun b l => ∀ x ∈ l, label x = b) labels ls) (hlabels : labels.Nodup) :
    ls.Pairwise List.Disjoint := by
  induction h with
  | nil => exact .nil
  | cons hb hrest ih =>
    rw [List.nodup_cons] at hlabels
    refine List.pairwise_cons.2 ⟨fun l' hl' x hx hx' => ?_, ih hlabels.2⟩
    obtain ⟨b', hb', hlabel⟩ := hrest.exists_of_mem_right hl'
    exact hlabels.1 ((hb x hx).symm.trans (hlabel x hx') ▸ hb')

theorem nodup_flatten_of_label {α β : Type} {label : α → β} {labels : List β} {ls : List (List α)}
    (h : List.Forall₂ (fun b l => ∀ x ∈ l, label x = b) labels ls) (hlabels : labels.Nodup) :
    ls.flatten.Nodup ↔ ∀ l ∈ ls, l.Nodup :=
  List.nodup_flatten.trans (and_iff_left (pairwise_disjoint_of_label h hlabels))

end FirstOccurrence
