import Mathlib.Data.List.MinMax
import Mathlib.Data.List.Sort

/-!
# Records of a list as a step function of time

`atOrBefore time l t` is the latest record of `l` at time `t` or earlier, and `before time l t` the one
before it. Over a list in strictly chronological order they differ only at the time of a record, where one
record gives way to the next (`jump_iff`); over any list of records with distinct times they are those of
the list in order (`atOrBefore_perm`).
-/

namespace StepFunction

/-! ## Steps -/

section
variable {α β : Type}

/-- Each record with the one before it. -/
def steps : Option α → List α → List (Option α × α)
  | _, [] => []
  | previous, a :: l => (previous, a) :: steps (some a) l

theorem map_snd_steps (previous : Option α) (l : List α) : (steps previous l).map Prod.snd = l := by
  induction l generalizing previous with
  | nil => rfl
  | cons a l ih => exact congrArg (a :: ·) (ih (some a))

/-- The steps are the pairs of consecutive records. -/
theorem mem_steps {previous : Option α} {l : List α} {a b : α} :
    (some a, b) ∈ steps previous l ↔ [a, b] <:+: previous.toList ++ l := by
  induction l generalizing previous with
  | nil =>
    refine iff_of_false (by simp [steps]) fun h => ?_
    have := h.length_le
    cases previous <;> simp at this
  | cons c l ih =>
    rw [steps, List.mem_cons, ih]
    cases previous with
    | none => simp [Option.toList]
    | some p =>
      rw [Option.toList_some, Option.toList_some, List.singleton_append, List.singleton_append,
        List.infix_cons_iff (a := p)]
      refine or_congr ?_ Iff.rfl
      simp [List.cons_prefix_cons, Prod.ext_iff]

/-- What is emitted for each step, where it depends on the record alone if there is one before. -/
theorem flatMap_steps {r : α → α → Prop} {f : Option α × α → List β} {g : α → List β} {a : α} {l : List α}
    (hl : (a :: l).IsChain r) (h : ∀ a b, r a b → f (some a, b) = g b) :
    (steps (some a) l).flatMap f = l.flatMap g := by
  induction l generalizing a with
  | nil => rfl
  | cons b l ih =>
    obtain ⟨hab, hl⟩ := List.isChain_cons_cons.1 hl
    rw [steps, List.flatMap_cons, List.flatMap_cons, h a b hab, ih hl]

end

variable {α τ : Type} [LinearOrder τ] {time : α → τ} {l l' : List α} {a b : α}

/-- The latest record at `t` or before. -/
def atOrBefore (time : α → τ) (l : List α) (t : τ) : Option α :=
  (l.filter fun x => time x ≤ t).argmax time

/-- The latest record before `t`. -/
def before (time : α → τ) (l : List α) (t : τ) : Option α :=
  (l.filter fun x => time x < t).argmax time

/-! ## The order of the records -/

theorem argmax_perm (hl : (l.map time).Nodup) (h : l.Perm l') : l.argmax time = l'.argmax time := by
  cases ha : l.argmax time with
  | none =>
    rw [List.argmax_eq_none.1 ha] at h
    rw [← h.nil_eq, List.argmax_nil]
  | some a =>
    cases hb : l'.argmax time with
    | none =>
      rw [List.argmax_eq_none.1 hb] at h
      rw [h.eq_nil, List.argmax_nil] at ha
      cases ha
    | some b =>
      have hbl : b ∈ l := h.mem_iff.2 (List.argmax_mem hb)
      have hal : a ∈ l' := h.mem_iff.1 (List.argmax_mem ha)
      exact congrArg some (List.inj_on_of_nodup_map hl (List.argmax_mem ha) hbl
        (le_antisymm (List.le_of_mem_argmax hal hb) (List.le_of_mem_argmax hbl ha)))

theorem atOrBefore_perm (hl : (l.map time).Nodup) (h : l.Perm l') (t : τ) :
    atOrBefore time l t = atOrBefore time l' t :=
  argmax_perm (hl.sublist (List.filter_sublist.map time)) (h.filter _)

theorem argmax_concat_last (hl : (l ++ [a]).Pairwise fun a b => time a < time b) :
    (l ++ [a]).argmax time = some a := by
  rw [List.argmax_concat]
  cases h : l.argmax time with
  | none => rfl
  | some c =>
    have hlt := (List.pairwise_append.1 hl).2.2 c (List.argmax_mem h) a (List.mem_singleton_self a)
    exact if_pos hlt

/-! ## Jumps -/

/-- The records before, at and after a time. -/
theorem split_at (hl : l.Pairwise fun a b => time a < time b) (t : τ) :
    l = l.filter (fun x => time x < t) ++ l.filter (fun x => time x = t) ++
      l.filter (fun x => t < time x) := by
  induction l with
  | nil => rfl
  | cons a l ih =>
    obtain ⟨hlt, hl⟩ := List.pairwise_cons.1 hl
    -- from a record at `t` or later on there are only later ones
    have hlater : t ≤ time a → l.filter (fun x => time x < t) = [] ∧
        l.filter (fun x => time x = t) = [] ∧ l.filter (fun x => t < time x) = l := fun hle => by
      refine ⟨List.filter_eq_nil_iff.2 fun x hx => ?_, List.filter_eq_nil_iff.2 fun x hx => ?_,
        List.filter_eq_self.2 fun x hx => ?_⟩
      · simpa using (hle.trans_lt (hlt x hx)).le
      · simpa using (hle.trans_lt (hlt x hx)).ne'
      · simpa using hle.trans_lt (hlt x hx)
    rcases lt_trichotomy (time a) t with ht | ht | ht
    · simp only [List.filter_cons, ht, ht.ne, ht.not_gt, decide_true, decide_false, if_true,
        List.cons_append, Bool.false_eq_true, if_false]
      rw [← ih hl]
    · obtain ⟨h1, h2, h3⟩ := hlater ht.ge
      simp [ht, h1, h2, h3]
    · obtain ⟨h1, h2, h3⟩ := hlater ht.le
      simp [ht, ht.ne', ht.not_gt, h1, h2, h3]

theorem filter_le (hl : l.Pairwise fun a b => time a < time b) (t : τ) :
    l.filter (fun x => time x ≤ t) =
      l.filter (fun x => time x < t) ++ l.filter (fun x => time x = t) := by
  have h := congrArg (List.filter fun x => time x ≤ t) (split_at hl t)
  have hlt : (l.filter fun x => time x < t).filter (fun x => time x ≤ t) =
      l.filter fun x => time x < t :=
    List.filter_eq_self.2 fun x hx => by simpa using (of_decide_eq_true (List.mem_filter.1 hx).2).le
  have heq : (l.filter fun x => time x = t).filter (fun x => time x ≤ t) =
      l.filter fun x => time x = t :=
    List.filter_eq_self.2 fun x hx => by simpa using (of_decide_eq_true (List.mem_filter.1 hx).2).le
  have hgt : (l.filter fun x => t < time x).filter (fun x => time x ≤ t) = [] :=
    List.filter_eq_nil_iff.2 fun x hx => by simpa using of_decide_eq_true (List.mem_filter.1 hx).2
  rwa [List.filter_append, List.filter_append, hlt, heq, hgt, List.append_nil] at h

/-- At most one record has the time. -/
theorem filter_eq (hl : l.Pairwise fun a b => time a < time b) (t : τ) :
    l.filter (fun x => time x = t) = [] ∨ ∃ b, time b = t ∧ l.filter (fun x => time x = t) = [b] := by
  have hpair : (l.filter fun x => time x = t).Pairwise fun a b => time a < time b :=
    hl.sublist List.filter_sublist
  have htime : ∀ x ∈ l.filter fun x => time x = t, time x = t := fun x hx =>
    of_decide_eq_true (List.mem_filter.1 hx).2
  rcases hfilter : l.filter fun x => time x = t with _ | ⟨b, _ | ⟨c, rest⟩⟩
  · exact .inl rfl
  · rw [hfilter] at htime
    exact .inr ⟨b, htime b (by simp), rfl⟩
  · rw [hfilter] at hpair htime
    have hlt := (List.pairwise_cons.1 hpair).1 c (by simp)
    rw [htime b (by simp), htime c (by simp)] at hlt
    exact absurd hlt (lt_irrefl t)

theorem last_of_argmax {s : List α} (hs : s.Pairwise fun a b => time a < time b)
    (h : s.argmax time = some a) : ∃ s', s = s' ++ [a] := by
  rcases List.eq_nil_or_concat s with rfl | ⟨s', c, rfl⟩
  · cases h
  · rw [List.concat_eq_append] at hs h ⊢
    rw [argmax_concat_last hs] at h
    cases h
    exact ⟨s', rfl⟩

/-- **A record gives way to another** exactly where the other follows it, at its time. -/
theorem jump_iff (hl : l.Pairwise fun a b => time a < time b) (t : τ) :
    (before time l t = some a ∧ atOrBefore time l t = some b ∧ a ≠ b) ↔
      [a, b] <:+: l ∧ time b = t := by
  have hbefore : (l.filter fun x => time x < t).Pairwise fun a b => time a < time b :=
    hl.sublist List.filter_sublist
  have hupto : (l.filter fun x => time x ≤ t).Pairwise fun a b => time a < time b :=
    hl.sublist List.filter_sublist
  constructor
  · rintro ⟨ha, hb, hne⟩
    obtain ⟨s, hs⟩ := last_of_argmax hbefore ha
    rw [atOrBefore, filter_le hl t] at hb
    rcases filter_eq hl t with hnone | ⟨c, hc, hone⟩
    · rw [hnone, List.append_nil] at hb
      exact absurd (Option.some.inj (ha.symm.trans hb)) hne
    · rw [filter_le hl t, hone] at hupto
      rw [hone, argmax_concat_last hupto] at hb
      cases hb
      refine ⟨⟨s, l.filter fun x => t < time x, ?_⟩, hc⟩
      have hsplit := split_at hl t
      rw [hs, hone] at hsplit
      rw [List.append_cons s a [b]]
      exact hsplit.symm
  · rintro ⟨⟨s, s', rfl⟩, rfl⟩
    have hpair := hl
    rw [List.pairwise_append, List.pairwise_append] at hpair
    obtain ⟨⟨hs, hab, hsab⟩, hs', hlater⟩ := hpair
    have hlt : time a < time b := (List.pairwise_cons.1 hab).1 b (by simp)
    have hearlier : ∀ x ∈ s, time x < time b := fun x hx => hsab x hx b (by simp)
    have hlater : ∀ x ∈ s', time b < time x := fun x hx => hlater b (by simp) x hx
    have h1 : s.filter (fun x => time x < time b) = s :=
      List.filter_eq_self.2 fun x hx => by simpa using hearlier x hx
    have h2 : s.filter (fun x => time x ≤ time b) = s :=
      List.filter_eq_self.2 fun x hx => by simpa using (hearlier x hx).le
    have h3 : s'.filter (fun x => time x < time b) = [] :=
      List.filter_eq_nil_iff.2 fun x hx => by simpa using (hlater x hx).le
    have h4 : s'.filter (fun x => time x ≤ time b) = [] :=
      List.filter_eq_nil_iff.2 fun x hx => by simpa using hlater x hx
    have ha : (s ++ [a]).Pairwise fun a b => time a < time b := hl.sublist (by simp)
    have hb : (s ++ [a] ++ [b]).Pairwise fun a b => time a < time b := hl.sublist (by simp)
    have hbefore : (s ++ [a, b] ++ s').filter (fun x => time x < time b) = s ++ [a] := by
      rw [List.filter_append, List.filter_append, h1, h3]
      simp [hlt]
    have hupto : (s ++ [a, b] ++ s').filter (fun x => time x ≤ time b) = s ++ [a] ++ [b] := by
      rw [List.filter_append, List.filter_append, h2, h4]
      simp [hlt.le]
    refine ⟨?_, ?_, fun heq => hlt.ne (congrArg time heq)⟩
    · rw [before, hbefore, argmax_concat_last ha]
    · rw [atOrBefore, hupto, argmax_concat_last hb]

end StepFunction
