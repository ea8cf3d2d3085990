import IndustrialSafety.Lib.Table

/-!
# Pages behind a cursor

Rows are fetched newest first, `limit` at a time, each page starting strictly before the time of the last
row of the page before. Rows of one time come in any order. Such a walk ends and never returns a row
twice; it returns them all iff no page ends between two rows of one time (`walk_complete`).
-/

namespace Pagination

open List

variable {α τ : Type} [LinearOrder τ]

/-- The rows strictly before a cursor. -/
def older (time : α → τ) (rows : List α) (before : Option τ) : List α :=
  rows.filter fun x => ∀ t ∈ before, time x < t

/-- The first `limit` rows, newest first: `ORDER BY time DESC LIMIT limit`. -/
def IsPage (time : α → τ) (limit : Nat) (rows page : List α) : Prop :=
  ∃ sorted, sorted ~ rows ∧ sorted.Pairwise (fun a b => time b ≤ time a) ∧ page = sorted.take limit

/-- The pages up to the first that is shorter than the limit; `none` when the fuel runs out. -/
def walk (fetch : Option τ → List α) (time : α → τ) (limit : Nat) :
    Nat → Option τ → Option (List (List α))
  | 0, _ => none
  | fuel + 1, before =>
    let page := fetch before
    if page.length < limit then some [page]
    else
      match page.getLast? with
      | none => none
      | some last => (walk fetch time limit fuel (some (time last))).map (page :: ·)

/-- The times of the rows, newest first. -/
def times (time : α → τ) (rows : List α) : List τ := Query.orderByDesc id (rows.map time)

/-- No multiple of `limit` falls between two equal times. -/
def Unsplit (limit : Nat) (ts : List τ) : Prop :=
  ∀ k s t, ts[(k + 1) * limit - 1]? = some s → ts[(k + 1) * limit]? = some t → s ≠ t

variable {time : α → τ} {limit : Nat} {rows : List α} {fetch : Option τ → List α}

omit [LinearOrder τ] in
theorem unsplit_of_length_le {ts : List τ} (h : ts.length ≤ limit) : Unsplit limit ts := by
  intro k s t _ ht
  have hlt := (List.getElem?_eq_some_iff.1 ht).1
  have : limit ≤ (k + 1) * limit := Nat.le_mul_of_pos_left limit k.succ_pos
  omega

omit [LinearOrder τ] in
/-- The first boundary, and then those of the rest. -/
theorem unsplit_iff (hlimit : 1 ≤ limit) {ts : List τ} : Unsplit limit ts ↔
    (∀ s t, ts[limit - 1]? = some s → ts[limit]? = some t → s ≠ t) ∧
      Unsplit limit (ts.drop limit) := by
  have hnext : ∀ k, limit + ((k + 1) * limit - 1) = (k + 1 + 1) * limit - 1 ∧
      limit + (k + 1) * limit = (k + 1 + 1) * limit := fun k => by
    have : limit ≤ (k + 1) * limit := Nat.le_mul_of_pos_left limit k.succ_pos
    rw [Nat.succ_mul (k + 1)]
    omega
  constructor
  · intro h
    refine ⟨fun s t hs ht => h 0 s t (by simpa using hs) (by simpa using ht), fun k s t hs ht => ?_⟩
    rw [List.getElem?_drop] at hs ht
    exact h (k + 1) s t ((hnext k).1 ▸ hs) ((hnext k).2 ▸ ht)
  · rintro ⟨hfirst, hrest⟩ k s t hs ht
    cases k with
    | zero => exact hfirst s t (by simpa using hs) (by simpa using ht)
    | succ k =>
      refine hrest k s t ?_ ?_ <;> rw [List.getElem?_drop]
      · rw [(hnext k).1, hs]
      · rw [(hnext k).2, ht]

/-- However ties are ordered, the times are in one order. -/
theorem times_eq {sorted : List α} (hperm : sorted ~ rows)
    (hsorted : sorted.Pairwise fun a b => time b ≤ time a) : times time rows = sorted.map time := by
  have hanti : ∀ a b : τ, a ∈ times time rows → b ∈ sorted.map time → b ≤ a → a ≤ b → a = b :=
    fun _ _ _ _ h h' => le_antisymm h' h
  refine List.Perm.eq_of_pairwise hanti (Query.pairwise_orderByDesc id _)
    (List.pairwise_map.2 hsorted) ?_
  exact (List.perm_insertionSort _ _).trans (hperm.map time).symm

theorem times_perm {rows' : List α} (h : rows ~ rows') : times time rows' = times time rows := by
  have hsorted := Query.pairwise_orderByDesc time rows
  have hperm : Query.orderByDesc time rows ~ rows := List.perm_insertionSort _ _
  rw [times_eq hperm hsorted, times_eq (hperm.trans h) hsorted]

/-- Behind the last row of a full page are the later rows that are strictly older. -/
theorem older_last {sorted : List α} {before : Option τ} {last : α}
    (hperm : sorted ~ older time rows before)
    (hsorted : sorted.Pairwise fun a b => time b ≤ time a)
    (hlast : (sorted.take limit).getLast? = some last) :
    older time rows (some (time last)) ~ (sorted.drop limit).filter fun x => time x < time last := by
  have hmem : last ∈ older time rows before :=
    hperm.mem_iff.1 (List.mem_of_mem_take (List.mem_of_getLast? hlast))
  have hbefore : ∀ t ∈ before, time last < t := by simpa using (List.mem_filter.1 hmem).2
  have holder : older time rows (some (time last)) =
      (older time rows before).filter fun x => time x < time last := by
    rw [older, older, List.filter_filter]
    refine List.filter_congr fun x _ => ?_
    rw [Bool.eq_iff_iff]
    simp only [Option.mem_def, Option.some.injEq, forall_eq', decide_eq_true_eq, Bool.and_eq_true]
    exact ⟨fun hlt => ⟨hlt, fun t ht => hlt.trans (hbefore t ht)⟩, And.left⟩
  have hpage : (sorted.take limit).filter (fun x => time x < time last) = [] := by
    obtain ⟨init, hinit⟩ := List.getLast?_eq_some_iff.1 hlast
    have hpair := hsorted.sublist (List.take_sublist limit sorted)
    rw [hinit] at hpair ⊢
    refine List.filter_eq_nil_iff.2 fun x hx => ?_
    rcases List.mem_append.1 hx with hx | hx
    · have := (List.pairwise_append.1 hpair).2.2 x hx last (List.mem_singleton.2 rfl)
      simpa using this
    · rw [List.mem_singleton.1 hx]
      simp
  rw [holder]
  refine (hperm.symm.filter _).trans ?_
  conv_lhs => rw [← List.take_append_drop limit sorted]
  rw [List.filter_append, hpage, List.nil_append]

/-- The rows behind the cursor are all that is left iff the page does not end between equal times. -/
theorem filter_drop_eq_self {sorted : List α} (hlimit : 1 ≤ limit)
    (hsorted : sorted.Pairwise fun a b => time b ≤ time a) {last : α}
    (hlast : (sorted.take limit).getLast? = some last) (hfull : limit ≤ sorted.length) :
    ((sorted.drop limit).filter fun x => time x < time last) = sorted.drop limit ↔
      ∀ s t, (sorted.map time)[limit - 1]? = some s → (sorted.map time)[limit]? = some t → s ≠ t := by
  have hget : sorted[limit - 1]? = some last := by
    rwa [List.getLast?_eq_getElem?, List.length_take, Nat.min_eq_left hfull,
      List.getElem?_take_of_lt (by omega)] at hlast
  have hpair := hsorted
  rw [← List.take_append_drop limit sorted, List.pairwise_append] at hpair
  have hle : ∀ x ∈ sorted.drop limit, time x ≤ time last :=
    hpair.2.2 last (List.mem_of_getLast? hlast)
  have hnext : sorted[limit]? = (sorted.drop limit).head? := by
    rw [List.head?_eq_getElem?, List.getElem?_drop, Nat.add_zero]
  rw [List.getElem?_map, List.getElem?_map, hget, hnext, List.filter_eq_self]
  cases hdrop : sorted.drop limit with
  | nil => simp
  | cons y ys =>
    rw [hdrop] at hle hpair
    simp only [Option.map_some, List.head?_cons, Option.some.injEq, decide_eq_true_eq]
    constructor
    · rintro h _ _ rfl rfl
      exact (h y List.mem_cons_self).ne'
    · intro hne x hx
      have hy := lt_of_le_of_ne (hle y List.mem_cons_self) (hne _ _ rfl rfl).symm
      rcases List.mem_cons.1 hx with rfl | hx
      · exact hy
      · exact ((List.pairwise_cons.1 hpair.2.1).1 x hx).trans_lt hy

/-- **Walks** from any cursor end, return no row twice and no other rows, and return every row iff no page
ends between two equal times. -/
theorem walk_complete_from (hlimit : 1 ≤ limit)
    (hfetch : ∀ before, IsPage time limit (older time rows before) (fetch before)) (before : Option τ)
    {fuel : Nat} (hfuel : (older time rows before).length < fuel) :
    ∃ pages, walk fetch time limit fuel before = some pages ∧
      pages.flatten <+~ older time rows before ∧
      (pages.flatten ~ older time rows before ↔ Unsplit limit (times time (older time rows before))) := by
  induction fuel generalizing before with
  | zero => exact absurd hfuel (Nat.not_lt_zero _)
  | succ fuel ih =>
    obtain ⟨sorted, hperm, hsorted, hpage⟩ := hfetch before
    rw [times_eq hperm hsorted]
    by_cases hshort : (fetch before).length < limit
    · have hall : fetch before = sorted := by
        rw [hpage, List.length_take] at hshort
        rw [hpage, List.take_of_length_le (by omega)]
      refine ⟨[fetch before], ?_, ?_, ?_⟩
      · rw [walk, if_pos hshort]
      · simpa [hall] using hperm.subperm
      · refine iff_of_true (by simpa [hall] using hperm) (unsplit_of_length_le ?_)
        rw [List.length_map, ← hall]
        exact hshort.le
    · have hfull : limit ≤ sorted.length := by
        rw [hpage, List.length_take] at hshort
        omega
      obtain ⟨last, hlast⟩ : ∃ last, (fetch before).getLast? = some last := by
        cases hl : (fetch before).getLast? with
        | some last => exact ⟨last, rfl⟩
        | none =>
          rw [List.getLast?_eq_none_iff.1 hl] at hshort
          exact absurd hlimit (by simpa using hshort)
      rw [hpage] at hlast
      have hrest := older_last hperm hsorted hlast
      have hlength : (older time rows (some (time last))).length < fuel := by
        have h1 := hrest.length_eq.trans_le (List.length_filter_le _ _)
        have h2 := hperm.length_eq
        rw [List.length_drop] at h1
        omega
      obtain ⟨pages, hwalk, hsub, hiff⟩ := ih (some (time last)) hlength
      have hsplit : sorted.take limit ++ sorted.drop limit ~ older time rows before := by
        rwa [List.take_append_drop]
      refine ⟨fetch before :: pages, ?_, ?_, ?_⟩
      · rw [walk, if_neg hshort]
        rw [hpage, hlast]
        exact congrArg (Option.map _) hwalk
      · rw [List.flatten_cons, hpage]
        exact ((List.subperm_append_left _).2 ((hsub.trans hrest.subperm).trans
          List.filter_sublist.subperm)).trans hsplit.subperm
      · rw [List.flatten_cons, hpage, ← (hsplit.congr_right _), List.perm_append_left_iff,
          unsplit_iff hlimit, ← filter_drop_eq_self hlimit hsorted hlast hfull, ← List.map_drop,
          ← times_eq (.refl _) (hsorted.sublist (List.drop_sublist limit sorted))]
        constructor
        · intro h
          have hself : ((sorted.drop limit).filter fun x => time x < time last) = sorted.drop limit :=
            List.filter_sublist.eq_of_length_le
              (h.length_eq.symm.trans_le (hsub.length_le.trans_eq hrest.length_eq))
          rw [hself] at hrest
          rw [times_perm hrest]
          exact ⟨hself, hiff.1 (h.trans hrest.symm)⟩
        · rintro ⟨hself, hunsplit⟩
          rw [hself] at hrest
          rw [times_perm hrest] at hunsplit
          exact (hiff.2 hunsplit).trans hrest

/-- A walk from the newest row. -/
theorem walk_complete (hlimit : 1 ≤ limit)
    (hfetch : ∀ before, IsPage time limit (older time rows before) (fetch before)) :
    ∃ pages, walk fetch time limit (rows.length + 1) none = some pages ∧ pages.flatten <+~ rows ∧
      (pages.flatten ~ rows ↔ Unsplit limit (times time rows)) := by
  have hall : older time rows none = rows := by simp [older]
  have h := walk_complete_from hlimit hfetch none (Nat.lt_succ_self _)
  rwa [hall] at h

/-! ## Pages of a chronological list -/

/-- The elements within an interval of time are consecutive. -/
theorem filter_stretch {l : List α} (hl : l.Pairwise fun a b => time a < time b) {p : α → Bool}
    (hp : ∀ a b c, p a → p c → time a < time b → time b < time c → p b) : l.filter p <:+: l := by
  have hprefix : ∀ (a : α) (l : List α), p a → (a :: l).Pairwise (fun a b => time a < time b) →
      l.filter p <+: l := by
    intro a l ha hl
    induction l with
    | nil => exact List.prefix_rfl
    | cons b l ih =>
      simp only [List.pairwise_cons, List.mem_cons, forall_eq_or_imp] at hl ih
      by_cases hb : p b
      · rw [List.filter_cons_of_pos hb]
        exact List.cons_prefix_cons.2 ⟨rfl, ih ⟨hl.1.2, hl.2.2⟩⟩
      · -- the interval has ended
        have : (b :: l).filter p = [] := by
          rw [List.filter_cons_of_neg hb, List.filter_eq_nil_iff]
          exact fun c hc hpc => hb (hp a b c ha hpc hl.1.1 (hl.2.1 c hc))
        rw [this]
        exact List.nil_prefix
  induction l with
  | nil => exact List.infix_rfl
  | cons a l ih =>
    by_cases ha : p a
    · rw [List.filter_cons_of_pos ha]
      exact (List.cons_prefix_cons.2 ⟨rfl, hprefix a l ha hl⟩).isInfix
    · rw [List.filter_cons_of_neg ha]
      exact (ih hl.of_cons).trans (List.suffix_cons a l).isInfix

/-- **A page is a stretch of the history**, newest first, if the rows within the bounds are those of a
list in strictly chronological order. -/
theorem IsPage.reverse_stretch {page history : List α} {p : α → Bool} (hpage : IsPage time limit rows page)
    (hhistory : history.Pairwise fun a b => time a < time b)
    (hp : ∀ a b c, p a → p c → time a < time b → time b < time c → p b)
    (hrows : rows ~ history.filter p) : page.reverse <:+: history := by
  obtain ⟨sorted, hperm, hsorted, rfl⟩ := hpage
  have hfilter : (history.filter p).Pairwise fun a b => time a < time b :=
    hhistory.sublist List.filter_sublist
  have heq : sorted = (history.filter p).reverse := by
    refine List.Perm.eq_of_pairwise (fun a b ha hb hab hba => ?_) hsorted
      (List.pairwise_reverse.2 (hfilter.imp le_of_lt))
      ((hperm.trans hrows).trans (List.reverse_perm _).symm)
    -- the rows have distinct times
    have hdistinct : ((history.filter p).map time).Nodup :=
      (List.pairwise_map.2 hfilter).imp ne_of_lt
    exact List.inj_on_of_nodup_map hdistinct ((hperm.trans hrows).mem_iff.1 ha)
      (List.mem_reverse.1 hb) (le_antisymm hba hab)
  rw [heq]
  have hsuffix : ((history.filter p).reverse.take limit).reverse <:+ history.filter p :=
    List.reverse_prefix.1 (by simpa using List.take_prefix limit (history.filter p).reverse)
  exact hsuffix.isInfix.trans (filter_stretch hhistory hp)

end Pagination
