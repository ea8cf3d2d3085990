import Mathlib.Data.List.Sort
import Mathlib.Data.List.Nodup

/-!
# Keyed tables and ordered queries

`Table key`: a list of rows with pairwise distinct keys, in storage order. `Table.upsert` inserts a
row or replaces the one with its key in place; the field `nodup` makes a table with a duplicate key
impossible to build. `latest` and `recent` are the queries `ORDER BY time DESC LIMIT 1` and the last
`limit` rows of `ORDER BY time`; ties keep the storage order.
-/

structure Table {α κ : Type} (key : α → κ) where
  rows : List α
  nodup : (rows.map key).Nodup

namespace Table

variable {α κ : Type} {key : α → κ}

def empty : Table key := ⟨[], List.nodup_nil⟩

instance : Membership α (Table key) := ⟨fun t x => x ∈ t.rows⟩

theorem mem_def {t : Table key} {x : α} : x ∈ t ↔ x ∈ t.rows := Iff.rfl

/-- Rows with the same key are the same row. -/
theorem eq_of_key {t : Table key} {x y : α} (hx : x ∈ t) (hy : y ∈ t) (h : key x = key y) :
    x = y :=
  List.inj_on_of_nodup_map t.nodup hx hy h

variable [DecidableEq κ]

/-- Replace the row with `row`'s key, or append `row`. -/
def upsertRow (key : α → κ) (row : α) : List α → List α
  | [] => [row]
  | r :: rs => if key r = key row then row :: rs else r :: upsertRow key row rs

theorem map_key_upsertRow (row : α) (l : List α) :
    (upsertRow key row l).map key =
      if key row ∈ l.map key then l.map key else l.map key ++ [key row] := by
  induction l with
  | nil => simp [upsertRow]
  | cons r rs ih =>
    unfold upsertRow
    by_cases h : key r = key row
    · simp [h]
    · have h' : ¬key row = key r := fun e => h e.symm
      simp only [h, ↓reduceIte, List.map_cons, ih, List.mem_cons, h', false_or]
      split <;> rfl

theorem upsertRow_of_notMem {row : α} {l : List α} (h : key row ∉ l.map key) :
    upsertRow key row l = l ++ [row] := by
  induction l with
  | nil => rfl
  | cons r rs ih =>
    rw [List.map_cons, List.mem_cons, not_or] at h
    rw [upsertRow, if_neg fun heq => h.1 heq.symm, ih h.2, List.cons_append]

theorem mem_upsertRow {row x : α} {l : List α} (hl : (l.map key).Nodup) :
    x ∈ upsertRow key row l ↔ x = row ∨ x ∈ l ∧ key x ≠ key row := by
  induction l with
  | nil => simp [upsertRow]
  | cons r rs ih =>
    rw [List.map_cons, List.nodup_cons] at hl
    unfold upsertRow
    split
    · rename_i h
      have hrs : ∀ y ∈ rs, key y ≠ key row := fun y hy e =>
        hl.1 (List.mem_map.2 ⟨y, hy, e.trans h.symm⟩)
      simp only [List.mem_cons]
      constructor
      · rintro (rfl | hx)
        · exact .inl rfl
        · exact .inr ⟨.inr hx, hrs x hx⟩
      · rintro (rfl | ⟨rfl | hx, hk⟩)
        · exact .inl rfl
        · exact absurd h hk
        · exact .inr hx
    · rename_i h
      simp only [List.mem_cons, ih hl.2]
      constructor
      · rintro (rfl | rfl | ⟨hx, hk⟩)
        · exact .inr ⟨.inl rfl, h⟩
        · exact .inl rfl
        · exact .inr ⟨.inr hx, hk⟩
      · rintro (rfl | ⟨rfl | hx, hk⟩)
        · exact .inr (.inl rfl)
        · exact .inl rfl
        · exact .inr (.inr ⟨hx, hk⟩)

/-- `session.merge(row)` on the primary key `key`. -/
def upsert (t : Table key) (row : α) : Table key where
  rows := upsertRow key row t.rows
  nodup := by
    rw [map_key_upsertRow]
    split
    · exact t.nodup
    · rename_i h
      exact List.nodup_append.2 ⟨t.nodup, List.nodup_singleton _, by
        rintro a ha b hb rfl
        rw [List.mem_singleton] at hb
        exact h (hb ▸ ha)⟩

/-- The row with key `k`. -/
def get? (t : Table key) (k : κ) : Option α := t.rows.find? (key · = k)

theorem get?_eq_some {t : Table key} {k : κ} {x : α} : t.get? k = some x ↔ x ∈ t ∧ key x = k := by
  unfold get?
  constructor
  · intro h
    exact ⟨List.mem_of_find?_eq_some h, by simpa using List.find?_some h⟩
  · rintro ⟨hx, rfl⟩
    cases h : t.rows.find? (key · = key x) with
    | none => exact absurd (List.find?_eq_none.1 h x hx) (by simp)
    | some y =>
      have hy : key y = key x := by simpa using List.find?_some h
      rw [eq_of_key (t := t) (List.mem_of_find?_eq_some h) hx hy]

theorem get?_eq_none {t : Table key} {k : κ} : t.get? k = none ↔ ∀ x ∈ t, key x ≠ k := by
  simp [get?, List.find?_eq_none, mem_def]

@[simp] theorem mem_upsert {t : Table key} {row x : α} :
    x ∈ t.upsert row ↔ x = row ∨ x ∈ t ∧ key x ≠ key row :=
  mem_upsertRow t.nodup

theorem get?_upsert (t : Table key) (row : α) (k : κ) :
    (t.upsert row).get? k = if key row = k then some row else t.get? k := by
  split
  · rename_i h
    exact get?_eq_some.2 ⟨mem_upsert.2 (.inl rfl), h⟩
  · rename_i h
    cases hk : t.get? k with
    | none =>
      rw [get?_eq_none] at hk ⊢
      intro x hx
      rcases mem_upsert.1 hx with rfl | ⟨hx, -⟩
      · exact h
      · exact hk x hx
    | some y =>
      obtain ⟨hy, rfl⟩ := get?_eq_some.1 hk
      exact get?_eq_some.2 ⟨mem_upsert.2 (.inr ⟨hy, fun e => h e.symm⟩), rfl⟩

/-- Rows with distinct keys are all kept. -/
theorem mem_foldl_upsert {l : List α} (hn : (l.map key).Nodup) {t : Table key} {x : α} :
    x ∈ l.foldl upsert t ↔ x ∈ l ∨ x ∈ t ∧ key x ∉ l.map key := by
  induction l generalizing t with
  | nil => simp
  | cons a l ih =>
    rw [List.map_cons, List.nodup_cons] at hn
    rw [List.foldl_cons, ih hn.2, mem_upsert, List.map_cons, List.mem_cons, List.mem_cons, not_or]
    constructor
    · rintro (hx | ⟨rfl | ⟨hx, ha⟩, hl⟩)
      · exact .inl (.inr hx)
      · exact .inl (.inl rfl)
      · exact .inr ⟨hx, ha, hl⟩
    · rintro ((rfl | hx) | ⟨hx, ha, hl⟩)
      · exact .inr ⟨.inl rfl, hn.1⟩
      · exact .inl hx
      · exact .inr ⟨.inr ⟨hx, ha⟩, hl⟩

omit [DecidableEq κ] in
/-- One row for each key. -/
theorem length_filter_key {t : Table key} {keys : List κ} (hn : keys.Nodup)
    (h : ∀ k ∈ keys, ∃ x ∈ t, key x = k) {p : α → Bool} (hp : ∀ x, p x = true ↔ key x ∈ keys) :
    (t.rows.filter p).length = keys.length := by
  have hrows : ((t.rows.filter p).map key).Nodup :=
    t.nodup.sublist (List.filter_sublist.map key)
  rw [← List.length_map key]
  refine ((List.perm_ext_iff_of_nodup hrows hn).2 fun k => ?_).length_eq
  simp only [List.mem_map, List.mem_filter, hp]
  constructor
  · rintro ⟨x, ⟨-, hx⟩, rfl⟩
    exact hx
  · intro hk
    obtain ⟨x, hx, rfl⟩ := h k hk
    exact ⟨x, ⟨hx, hk⟩, rfl⟩

end Table

/-! ## Ordered queries -/

namespace Query

variable {α τ : Type} [LinearOrder τ] (time : α → τ)

/-- `ORDER BY time DESC`. -/
def orderByDesc (l : List α) : List α := l.insertionSort fun a b => time b ≤ time a

/-- `ORDER BY time DESC LIMIT 1`. -/
def latest (l : List α) : Option α := (orderByDesc time l).head?

/-- The rows of `ORDER BY time DESC LIMIT limit`, oldest first. -/
def recent (limit : Nat) (l : List α) : List α := ((orderByDesc time l).take limit).reverse

@[simp] theorem mem_orderByDesc {l : List α} {x : α} : x ∈ orderByDesc time l ↔ x ∈ l :=
  List.mem_insertionSort _

theorem pairwise_orderByDesc (l : List α) :
    (orderByDesc time l).Pairwise fun a b => time b ≤ time a := by
  have : Std.Total fun a b : α => time b ≤ time a := ⟨fun a b => le_total _ _⟩
  have : IsTrans α fun a b : α => time b ≤ time a := ⟨fun _ _ _ h1 h2 => le_trans h2 h1⟩
  exact List.pairwise_insertionSort _ l

variable {time}

theorem latest_mem {l : List α} {x : α} (h : latest time l = some x) : x ∈ l :=
  (mem_orderByDesc time).1 (List.mem_of_mem_head? h)

theorem latest_isSome {l : List α} {x : α} (h : x ∈ l) : (latest time l).isSome := by
  rw [latest, List.isSome_head?]
  exact List.ne_nil_of_mem ((mem_orderByDesc time).2 h)

theorem latest_max {l : List α} {x : α} (h : latest time l = some x) : ∀ y ∈ l, time y ≤ time x := by
  intro y hy
  have hp := pairwise_orderByDesc time l
  rw [← mem_orderByDesc time] at hy
  unfold latest at h
  cases ho : orderByDesc time l with
  | nil => simp [ho] at h
  | cons z zs =>
    rw [ho, List.head?_cons, Option.some.injEq] at h
    subst h
    rw [ho] at hp hy
    rcases List.mem_cons.1 hy with rfl | hy
    · exact le_rfl
    · exact (List.pairwise_cons.1 hp).1 y hy

theorem mem_of_mem_recent {n : Nat} {l : List α} {x : α} (h : x ∈ recent time n l) : x ∈ l :=
  (mem_orderByDesc time).1 (List.mem_of_mem_take (List.mem_reverse.1 h))

/-- The newest row of a window is the latest row. -/
theorem getLast?_recent (n : Nat) (l : List α) :
    (recent time (n + 1) l).getLast? = latest time l := by
  unfold recent latest
  cases orderByDesc time l <;> simp

theorem head?_recent_one (l : List α) : (recent time 1 l).head? = latest time l := by
  unfold recent latest
  cases orderByDesc time l <;> rfl

theorem length_recent (n : Nat) (l : List α) : (recent time n l).length = min n l.length := by
  rw [recent, List.length_reverse, List.length_take, orderByDesc, List.length_insertionSort]

/-- The latest of rows at distinct times is the last of any ascending list of the same entries. -/
theorem latest_eq_getLast? {β γ : Type} {l : List α} {m : List β} {f : α → γ} {g : β → γ}
    {t : γ → τ} (hl : ∀ a ∈ l, t (f a) = time a) (hn : (l.map time).Nodup)
    (hm : m.Pairwise fun a b => t (g a) ≤ t (g b)) (hp : (l.map f).Perm (m.map g)) :
    (latest time l).map f = m.getLast?.map g := by
  rcases List.eq_nil_or_concat m with rfl | ⟨init, y, rfl⟩
  · have hnil : l = [] := by simpa using hp.length_eq
    rw [hnil]
    rfl
  rw [List.concat_eq_append] at hm hp ⊢
  have hmax : ∀ b ∈ init ++ [y], t (g b) ≤ t (g y) := by
    intro b hb
    rw [List.pairwise_append] at hm
    rcases List.mem_append.1 hb with hb | hb
    · exact hm.2.2 b hb y (by simp)
    · rw [List.mem_singleton.1 hb]
  -- the row of the last entry is no older than the latest one, so it is the latest
  obtain ⟨x, hx, hxy⟩ := List.mem_map.1 (hp.mem_iff.2 (List.mem_map_of_mem (by simp : y ∈ init ++ [y])))
  obtain ⟨z, hz⟩ : ∃ z, latest time l = some z := by
    rw [← Option.isSome_iff_exists, latest, List.isSome_head?]
    exact List.ne_nil_of_mem ((mem_orderByDesc time).2 hx)
  have hzmem := latest_mem hz
  obtain ⟨b, hb, hbz⟩ := List.mem_map.1 (hp.mem_iff.1 (List.mem_map_of_mem hzmem))
  have hle : time z ≤ time x := by
    rw [← hl z hzmem, ← hl x hx, hxy, ← hbz]
    exact hmax b hb
  have hzx : z = x := List.inj_on_of_nodup_map hn hzmem hx (le_antisymm hle (latest_max hz x hx))
  rw [hz, List.getLast?_concat, Option.map_some, Option.map_some, hzx, hxy]

/-- The rows a limit cuts off a descending list: none of them is in the window `[s, e]` iff none of
the list is, or the limit covers the rows since `s`. -/
theorem drop_window_iff {l : List α} (hl : l.Pairwise fun a b => time b ≤ time a) (n : ℕ)
    (s e : τ) : (∀ x ∈ l.drop n, ¬(s ≤ time x ∧ time x ≤ e)) ↔
      (∀ x ∈ l, ¬(s ≤ time x ∧ time x ≤ e)) ∨ (l.filter fun x => s ≤ time x).length ≤ n := by
  have hsplit : (l.filter fun x => s ≤ time x) =
      (l.take n).filter (fun x => s ≤ time x) ++ (l.drop n).filter fun x => s ≤ time x := by
    rw [← List.filter_append, List.take_append_drop]
  rw [← List.take_append_drop n l, List.pairwise_append] at hl
  obtain ⟨-, hdrop, hle⟩ := hl
  rw [hsplit, List.length_append]
  refine ⟨fun h => ?_, fun h x hx hw => ?_⟩
  · -- the newest row cut off is before `s`, or every row kept is after it
    rcases hd : l.drop n with _ | ⟨y, ys⟩
    · refine .inr ?_
      have := List.length_filter_le (fun x => s ≤ time x) (l.take n)
      simp only [List.filter_nil, List.length_nil]
      rw [List.length_take] at this
      omega
    rw [hd] at h hdrop hle
    rcases le_or_gt s (time y) with hs | hs
    · refine .inl fun x hx hw => ?_
      rw [← List.take_append_drop n l, hd, List.mem_append] at hx
      rcases hx with hx | hx
      · exact h y (.head _) ⟨hs, (hle x hx y (.head _)).trans hw.2⟩
      · exact h x hx hw
    · refine .inr ?_
      have hnone : (y :: ys).filter (fun x => s ≤ time x) = [] := by
        refine List.filter_eq_nil_iff.2 fun x hx => ?_
        rw [decide_eq_true_iff, not_le]
        rcases List.mem_cons.1 hx with rfl | hx
        · exact hs
        · exact ((List.pairwise_cons.1 hdrop).1 x hx).trans_lt hs
      have := List.length_filter_le (fun x => s ≤ time x) (l.take n)
      rw [hnone, List.length_nil]
      rw [List.length_take] at this
      omega
  · rcases h with h | h
    · exact h x (List.mem_of_mem_drop hx) hw
    · have hkept : (l.take n).filter (fun x => s ≤ time x) = l.take n :=
        List.filter_eq_self.2 fun y hy => decide_eq_true (hw.1.trans (hle y hy x hx))
      have hpos : 0 < ((l.drop n).filter fun x => s ≤ time x).length :=
        List.length_pos_of_mem (List.mem_filter.2 ⟨hx, decide_eq_true hw.1⟩)
      have hn : n < l.length := by
        have := List.length_pos_of_mem hx
        rw [List.length_drop] at this
        omega
      rw [hkept, List.length_take] at h
      omega

end Query
