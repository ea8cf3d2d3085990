import IndustrialSafety.Lib.Table

/-!
# What an upsert changes

* `upsert_of_mem`: writing a row that is stored changes nothing.
* `filter_upsert`: a query that selects neither the row written nor the row it replaces is not affected.
* `filter_foldl_upsert`: rows are written to the part of the table a query selects, if rows with one key
  are selected together.
* `Merging.foldl_again`: a loop of merges, each of an object onto the row stored under its key, changes
  nothing when it is run again.
-/

namespace Table

variable {α κ : Type} {key : α → κ} [DecidableEq κ] {t : Table key} {row : α}

omit [DecidableEq κ] in
theorem ext_rows {t t' : Table key} (h : t.rows = t'.rows) : t = t' := by
  cases t
  cases t'
  cases h
  rfl

theorem upsertRow_of_mem {l : List α} (hrow : row ∈ l) (h : ∀ r ∈ l, key r = key row → r = row) :
    upsertRow key row l = l := by
  induction l with
  | nil => cases hrow
  | cons r rs ih =>
    unfold upsertRow
    split
    · rename_i hr
      rw [h r (.head _) hr]
    · rename_i hr
      rcases List.mem_cons.1 hrow with rfl | hrow
      · exact absurd rfl hr
      · rw [ih hrow fun r hr => h r (.tail _ hr)]

/-- Writing a stored row again. -/
theorem upsert_of_mem (h : row ∈ t) : t.upsert row = t :=
  ext_rows (upsertRow_of_mem h fun _ hr hkey => eq_of_key hr h hkey)

theorem filter_upsertRow {p : α → Bool} {l : List α} (hrow : p row = false)
    (hold : ∀ r ∈ l, key r = key row → p r = false) :
    (upsertRow key row l).filter p = l.filter p := by
  induction l with
  | nil => simp [upsertRow, hrow]
  | cons r rs ih =>
    unfold upsertRow
    split
    · rename_i hr
      simp [hrow, hold r (.head _) hr]
    · rw [List.filter_cons, List.filter_cons, ih fun r hr => hold r (.tail _ hr)]

/-- A query that selects neither the row written nor the row replaced. -/
theorem filter_upsert {p : α → Bool} (hrow : p row = false)
    (hold : ∀ r, t.get? (key row) = some r → p r = false) :
    (t.upsert row).rows.filter p = t.rows.filter p :=
  filter_upsertRow hrow fun r hr hkey => hold r (get?_eq_some.2 ⟨hr, hkey⟩)

/-! ## A part of a table -/

/-- The rows a query selects. -/
def filter (p : α → Bool) (t : Table key) : Table key :=
  ⟨t.rows.filter p, t.nodup.sublist (List.filter_sublist.map key)⟩

omit [DecidableEq κ] in
@[simp] theorem mem_filter {p : α → Bool} {r : α} : r ∈ t.filter p ↔ r ∈ t ∧ p r = true :=
  List.mem_filter

/-- A row that is selected is found among those selected. -/
theorem get?_filter {p : α → Bool} {k : κ} (h : ∀ r ∈ t, key r = k → p r = true) :
    (t.filter p).get? k = t.get? k := by
  cases hk : t.get? k with
  | none => exact get?_eq_none.2 fun r hr => get?_eq_none.1 hk r (mem_filter.1 hr).1
  | some r =>
    obtain ⟨hr, hkey⟩ := get?_eq_some.1 hk
    exact get?_eq_some.2 ⟨mem_filter.2 ⟨hr, h r hr hkey⟩, hkey⟩

theorem filter_upsertRow_of_pos {p : α → Bool} {l : List α} (hrow : p row = true)
    (hold : ∀ r ∈ l, key r = key row → p r = true) :
    (upsertRow key row l).filter p = upsertRow key row (l.filter p) := by
  induction l with
  | nil => simp [upsertRow, hrow]
  | cons r rs ih =>
    have hrs := ih fun r hr => hold r (.tail _ hr)
    by_cases hr : key r = key row
    · have hp := hold r (.head _) hr
      simp [upsertRow, hr, hp, hrow]
    · by_cases hp : p r = true
      · simp [upsertRow, hr, hp, hrs]
      · simp [upsertRow, hr, hp, hrs]

theorem filter_upsert_eq {p : α → Bool} (hold : ∀ r ∈ t, key r = key row → p r = p row) :
    (t.upsert row).filter p = if p row then (t.filter p).upsert row else t.filter p := by
  split
  · rename_i hrow
    exact ext_rows (filter_upsertRow_of_pos hrow fun r hr hkey => (hold r hr hkey).trans hrow)
  · rename_i hrow
    rw [Bool.not_eq_true] at hrow
    exact ext_rows (filter_upsertRow hrow fun r hr hkey => (hold r hr hkey).trans hrow)

/-- Rows with one key are selected together, before and after the writes. -/
theorem filter_foldl_upsert {p : α → Bool} {l : List α}
    (hold : ∀ a ∈ l, ∀ r ∈ t, key r = key a → p r = p a)
    (hl : ∀ a ∈ l, ∀ b ∈ l, key a = key b → p a = p b) :
    (l.foldl upsert t).filter p = (l.filter p).foldl upsert (t.filter p) := by
  induction l generalizing t with
  | nil => rfl
  | cons a l ih =>
    have hnext : ∀ b ∈ l, ∀ r ∈ t.upsert a, key r = key b → p r = p b := by
      intro b hb r hr hkey
      rcases mem_upsert.1 hr with rfl | ⟨hr, -⟩
      · exact hl r (.head _) b (.tail _ hb) hkey
      · exact hold b (.tail _ hb) r hr hkey
    rw [List.foldl_cons, ih hnext fun b hb c hc => hl b (.tail _ hb) c (.tail _ hc),
      filter_upsert_eq (hold a (.head _)), List.filter_cons]
    split <;> rfl

/-! ## Tables with the same keys -/

theorem rows_eq_filterMap (t : Table key) : t.rows = (t.rows.map key).filterMap t.get? := by
  rw [List.filterMap_map]
  have hself : ∀ r ∈ t.rows, (t.get? ∘ key) r = some r := fun r hr =>
    get?_eq_some.2 ⟨hr, rfl⟩
  rw [List.filterMap_congr hself, List.filterMap_some]

theorem ext_get? {t t' : Table key} (hkeys : t.rows.map key = t'.rows.map key)
    (h : ∀ k, t.get? k = t'.get? k) : t = t' := by
  refine ext_rows ?_
  rw [rows_eq_filterMap t, rows_eq_filterMap t', hkeys, funext h]

theorem keys_upsert (h : (t.get? (key row)).isSome) :
    (t.upsert row).rows.map key = t.rows.map key := by
  obtain ⟨r, hr⟩ := Option.isSome_iff_exists.1 h
  obtain ⟨hr, hkey⟩ := get?_eq_some.1 hr
  show (upsertRow key row t.rows).map key = _
  rw [map_key_upsertRow, if_pos (List.mem_map.2 ⟨r, hr, hkey⟩)]

/-! ## Merges -/

section Merge

variable {β : Type} {make : β → Option α → α} {argKey : β → κ}

/-- Write the row made of an object and the row stored under its key. -/
def merge (make : β → Option α → α) (argKey : β → κ) (t : Table key) (b : β) : Table key :=
  t.upsert (make b (t.get? (argKey b)))

/-- The row made has the object's key, and what it keeps of the stored row it keeps of a row made before
on top of that one. -/
structure Merging (key : α → κ) (make : β → Option α → α) (argKey : β → κ) : Prop where
  key_make : ∀ b e, key (make b e) = argKey b
  absorb : ∀ b b' e, argKey b = argKey b' → make b (some (make b' e)) = make b e

theorem Merging.get?_merge (h : Merging key make argKey) (t : Table key) (b : β) (k : κ) :
    (t.merge make argKey b).get? k = if argKey b = k then some (make b (t.get? k)) else t.get? k := by
  unfold merge
  rw [get?_upsert, h.key_make]
  split
  · rename_i hk
    rw [hk]
  · rfl

/-- The last object with a key decides on its row. -/
theorem Merging.get?_foldl (h : Merging key make argKey) (l : List β) (t : Table key) (k : κ) :
    (l.foldl (merge make argKey) t).get? k =
      ((l.reverse.find? (argKey · = k)).map fun b => make b (t.get? k)).or (t.get? k) := by
  induction l generalizing t with
  | nil => rfl
  | cons b l ih =>
    rw [List.foldl_cons, ih, List.reverse_cons, List.find?_append, h.get?_merge]
    cases hlast : l.reverse.find? (argKey · = k) with
    | none =>
      by_cases hk : argKey b = k
      · simp [hk]
      · simp [hk]
    | some c =>
      have hc : argKey c = k := by simpa using List.find?_some hlast
      by_cases hk : argKey b = k
      · simp [hk, h.absorb c b _ (hc.trans hk.symm)]
      · simp [hk]

/-- Of objects with distinct keys each decides on its row. -/
theorem Merging.get?_foldl_of_nodup (h : Merging key make argKey) {l : List β}
    (hn : (l.map argKey).Nodup) {b : β} (hb : b ∈ l) (t : Table key) :
    (l.foldl (merge make argKey) t).get? (argKey b) = some (make b (t.get? (argKey b))) := by
  rw [h.get?_foldl]
  cases hlast : l.reverse.find? (argKey · = argKey b) with
  | none => simpa using List.find?_eq_none.1 hlast b (List.mem_reverse.2 hb)
  | some c =>
    have hc : c ∈ l := List.mem_reverse.1 (List.mem_of_find?_eq_some hlast)
    have hkey : argKey c = argKey b := by simpa using List.find?_some hlast
    rw [List.inj_on_of_nodup_map hn hc hb hkey]
    rfl

/-- A row is the stored one, where no object has its key, or is made by the last object that has. -/
theorem Merging.mem_foldl (h : Merging key make argKey) {l : List β} {t : Table key} {x : α} :
    x ∈ l.foldl (merge make argKey) t ↔ (x ∈ t ∧ ∀ b ∈ l, argKey b ≠ key x) ∨
      ∃ b, l.reverse.find? (argKey · = key x) = some b ∧ x = make b (t.get? (key x)) := by
  have hget : ∀ {t : Table key}, x ∈ t ↔ t.get? (key x) = some x := by
    intro t
    rw [get?_eq_some, and_iff_left rfl]
  rw [hget, h.get?_foldl, hget]
  cases hlast : l.reverse.find? (argKey · = key x) with
  | none =>
    have hnone : ∀ b ∈ l, argKey b ≠ key x := by
      intro b hb
      simpa using List.find?_eq_none.1 hlast b (List.mem_reverse.2 hb)
    rw [Option.map_none, Option.none_or]
    exact ⟨fun hx => .inl ⟨hx, hnone⟩, fun hx => hx.elim And.left nofun⟩
  | some c =>
    have hc : argKey c = key x := by simpa using List.find?_some hlast
    have hmem : c ∈ l := List.mem_reverse.1 (List.mem_of_find?_eq_some hlast)
    rw [Option.map_some, Option.some_or, Option.some.injEq, eq_comm]
    constructor
    · exact fun hx => .inr ⟨c, rfl, hx⟩
    · rintro (⟨-, hnone⟩ | ⟨b, hb, hx⟩)
      · exact absurd hc (hnone c hmem)
      · cases hb
        exact hx

theorem Merging.isSome_foldl (h : Merging key make argKey) {l : List β} {t : Table key} {b : β}
    (hb : b ∈ l) : ((l.foldl (merge make argKey) t).get? (argKey b)).isSome := by
  rw [h.get?_foldl]
  have hfind : (l.reverse.find? (argKey · = argKey b)).isSome :=
    List.find?_isSome.2 ⟨b, List.mem_reverse.2 hb, by simp⟩
  obtain ⟨c, hc⟩ := Option.isSome_iff_exists.1 hfind
  simp [hc]

theorem Merging.keys_foldl (h : Merging key make argKey) {l : List β} {t : Table key}
    (hl : ∀ b ∈ l, (t.get? (argKey b)).isSome) :
    (l.foldl (merge make argKey) t).rows.map key = t.rows.map key := by
  induction l generalizing t with
  | nil => rfl
  | cons b l ih =>
    have hstored : (t.get? (key (make b (t.get? (argKey b))))).isSome := by
      rw [h.key_make]
      exact hl b (.head _)
    rw [List.foldl_cons, ih, merge, keys_upsert hstored]
    intro c hc
    rw [h.get?_merge]
    split
    · rfl
    · exact hl c (.tail _ hc)

/-- **A loop of merges changes nothing when it is run again.** -/
theorem Merging.foldl_again (h : Merging key make argKey) (l : List β) (t : Table key) :
    l.foldl (merge make argKey) (l.foldl (merge make argKey) t) =
      l.foldl (merge make argKey) t := by
  refine ext_get? (h.keys_foldl fun b hb => h.isSome_foldl hb) fun k => ?_
  rw [h.get?_foldl l (l.foldl (merge make argKey) t), h.get?_foldl]
  cases hlast : l.reverse.find? (argKey · = k) with
  | none => rfl
  | some c => simp [h.absorb c c _ rfl]

/-- **One row each**: of objects with distinct keys each has its row, there are as many rows with these
keys as objects, and every other row is as it was. -/
theorem Merging.foldl_nodup (h : Merging key make argKey) {l : List β}
    (hn : (l.map argKey).Nodup) (t : Table key) {p : α → Bool}
    (hp : ∀ x, p x = true ↔ key x ∈ l.map argKey) :
    (∀ b ∈ l, make b (t.get? (argKey b)) ∈ l.foldl (merge make argKey) t) ∧
      ((l.foldl (merge make argKey) t).rows.filter p).length = l.length ∧
      ∀ x, key x ∉ l.map argKey → (x ∈ l.foldl (merge make argKey) t ↔ x ∈ t) := by
  have hrow : ∀ b ∈ l, make b (t.get? (argKey b)) ∈ l.foldl (merge make argKey) t := fun b hb =>
    (get?_eq_some.1 (h.get?_foldl_of_nodup hn hb t)).1
  refine ⟨hrow, ?_, fun x hx => ?_⟩
  · rw [← l.length_map argKey]
    refine length_filter_key hn (fun k hk => ?_) hp
    obtain ⟨b, hb, rfl⟩ := List.mem_map.1 hk
    exact ⟨_, hrow b hb, h.key_make b _⟩
  · rw [h.mem_foldl]
    refine ⟨fun hmem => ?_, fun hmem => .inl ⟨hmem, fun b hb hkey => ?_⟩⟩
    · rcases hmem with ⟨hmem, -⟩ | ⟨b, hb, -⟩
      · exact hmem
      · have hkey : argKey b = key x := by simpa using List.find?_some hb
        exact absurd (hkey ▸ List.mem_map_of_mem
          (List.mem_reverse.1 (List.mem_of_find?_eq_some hb))) hx
    · exact hx (hkey ▸ List.mem_map_of_mem hb)

/-! ## Objects in another order -/

section
variable {l l' : List β}

/-- Of objects with distinct keys the order does not matter. -/
theorem Merging.get?_foldl_perm (h : Merging key make argKey) (hperm : l.Perm l')
    (hn : (l.map argKey).Nodup) (t : Table key) (k : κ) :
    (l'.foldl (merge make argKey) t).get? k = (l.foldl (merge make argKey) t).get? k := by
  by_cases hk : k ∈ l.map argKey
  · obtain ⟨b, hb, rfl⟩ := List.mem_map.1 hk
    rw [h.get?_foldl_of_nodup hn hb, h.get?_foldl_of_nodup ((hperm.map argKey).nodup_iff.1 hn)
      (hperm.mem_iff.1 hb)]
  · have hnone : ∀ ys : List β, ys.Perm l → ys.reverse.find? (argKey · = k) = none := by
      intro ys hys
      refine List.find?_eq_none.2 fun b hb => ?_
      have hmem := hys.mem_iff.1 (List.mem_reverse.1 hb)
      simpa using fun hkey : argKey b = k => hk (hkey ▸ List.mem_map_of_mem hmem)
    rw [h.get?_foldl, h.get?_foldl, hnone l (.refl l), hnone l' hperm.symm]

theorem Merging.foldl_perm (h : Merging key make argKey) (hperm : l.Perm l')
    (hn : (l.map argKey).Nodup) (t : Table key) :
    (l.foldl (merge make argKey) t).rows.Perm (l'.foldl (merge make argKey) t).rows := by
  have hnodup : ∀ t : Table key, t.rows.Nodup := fun t => List.Nodup.of_map key t.nodup
  refine (List.perm_ext_iff_of_nodup (hnodup _) (hnodup _)).2 fun r => ?_
  have hmem : ∀ t : Table key, r ∈ t.rows ↔ t.get? (key r) = some r := fun t => by
    rw [get?_eq_some, and_iff_left rfl]
    rfl
  rw [hmem, hmem, h.get?_foldl_perm hperm hn]

/-- The new keys come in the order of their objects. -/
theorem Merging.map_key_foldl (h : Merging key make argKey) (hn : (l.map argKey).Nodup)
    (t : Table key) : (l.foldl (merge make argKey) t).rows.map key =
      t.rows.map key ++ (l.map argKey).filter (· ∉ t.rows.map key) := by
  induction l generalizing t with
  | nil => simp
  | cons b l ih =>
    rw [List.map_cons, List.nodup_cons] at hn
    have hkeys : (t.merge make argKey b).rows.map key = if argKey b ∈ t.rows.map key
        then t.rows.map key else t.rows.map key ++ [argKey b] := by
      show (upsertRow key (make b (t.get? (argKey b))) t.rows).map key = _
      rw [map_key_upsertRow, h.key_make]
    rw [List.foldl_cons, ih hn.2, hkeys, List.map_cons, List.filter_cons]
    by_cases hold : argKey b ∈ t.rows.map key
    · simp [hold]
    · have hrest : (l.map argKey).filter (· ∉ t.rows.map key ++ [argKey b]) =
          (l.map argKey).filter (· ∉ t.rows.map key) := by
        refine List.filter_congr fun k hk => ?_
        have hne : k ≠ argKey b := fun hsame => hn.1 (hsame ▸ hk)
        simp [hne]
      rw [if_neg hold, hrest]
      simp [hold]

/-- A query that gets the new rows in the same order gets the same. -/
theorem Merging.filter_foldl_perm (h : Merging key make argKey) (hperm : l.Perm l')
    (hn : (l.map argKey).Nodup) {p : α → Bool}
    (hp : l.filter (fun b => p (make b none)) = l'.filter fun b => p (make b none)) (t : Table key) :
    (l'.foldl (merge make argKey) t).rows.filter p =
      (l.foldl (merge make argKey) t).rows.filter p := by
  have hn' : (l'.map argKey).Nodup := (hperm.map argKey).nodup_iff.1 hn
  have hget : (l'.foldl (merge make argKey) t).get? = (l.foldl (merge make argKey) t).get? :=
    funext fun k => h.get?_foldl_perm hperm hn t k
  have hrows : ∀ ys : List β, ys.Perm l →
      ((ys.map argKey).filter (· ∉ t.rows.map key)).filterMap (fun k =>
        ((l.foldl (merge make argKey) t).get? k).filter p) =
      (ys.filter fun b => p (make b none)).filterMap fun b =>
        if argKey b ∉ t.rows.map key then some (make b none) else none := by
    intro ys hys
    rw [List.filter_map, List.filterMap_map, List.filterMap_filter, List.filterMap_filter]
    refine List.filterMap_congr fun b hb => ?_
    dsimp only [Function.comp_apply]
    by_cases hold : argKey b ∈ t.rows.map key
    · rw [if_neg (mt of_decide_eq_true (not_not.2 hold)), if_neg (not_not.2 hold), ite_self]
    · have hnone : t.get? (argKey b) = none := get?_eq_none.2 fun r hr hkey =>
        hold (List.mem_map.2 ⟨r, hr, hkey⟩)
      rw [if_pos (decide_eq_true hold), if_pos hold, h.get?_foldl_of_nodup hn (hys.mem_iff.1 hb), hnone]
      rfl
  rw [rows_eq_filterMap (l'.foldl _ t), rows_eq_filterMap (l.foldl _ t), h.map_key_foldl hn,
    h.map_key_foldl hn', hget, List.filter_filterMap, List.filter_filterMap, List.filterMap_append,
    List.filterMap_append, hrows l (.refl l), hrows l' hperm.symm, hp]

end

end Merge

omit [DecidableEq κ] in
/-- An upsert keeps nothing of the row it replaces. -/
theorem merging_upsert : Merging key (fun (row : α) _ => row) key := ⟨fun _ _ => rfl, fun _ _ _ _ => rfl⟩

theorem foldl_upsert_again (l : List α) (t : Table key) :
    l.foldl upsert (l.foldl upsert t) = l.foldl upsert t :=
  merging_upsert.foldl_again l t

end Table
