import Mathlib.Data.List.Induction

/-!
# The most recent record of a history

In a history `l` (oldest first) whose entries may each record some values (`rec a b`: entry `a`
records `b`), `MostRecent rec l b` says that `b` is recorded by the last entry that records
anything.
-/

/-- `b` was recorded, and nothing after it. -/
def MostRecent {α β : Type} (rec : α → β → Prop) (l : List α) (b : β) : Prop :=
  ∃ past a since, l = past ++ a :: since ∧ rec a b ∧ ∀ x ∈ since, ∀ b', ¬rec x b'

namespace MostRecent

variable {α β : Type} {rec : α → β → Prop} {l : List α} {a : α} {b : β}

theorem not_nil : ¬MostRecent rec [] b := by
  rintro ⟨past, a, since, h, -⟩
  exact absurd h.symm (by simp)

theorem concat (h : rec a b) : MostRecent rec (l ++ [a]) b := ⟨l, a, [], rfl, h, by simp⟩

theorem concat_of_not (ha : ∀ b', ¬rec a b') : MostRecent rec (l ++ [a]) b ↔ MostRecent rec l b := by
  constructor
  · rintro ⟨past, x, since, h, hx, hsince⟩
    rcases List.eq_nil_or_concat since with rfl | ⟨since, y, rfl⟩
    · obtain ⟨-, hax⟩ := List.append_inj' h rfl
      cases hax
      exact absurd hx (ha b)
    · rw [List.concat_eq_append, ← List.cons_append, ← List.append_assoc] at h
      obtain ⟨h, -⟩ := List.append_inj' h rfl
      exact ⟨past, x, since, h, hx, fun z hz => hsince z (by simp [hz])⟩
  · rintro ⟨past, x, since, rfl, hx, hsince⟩
    refine ⟨past, x, since ++ [a], by simp, hx, fun z hz => ?_⟩
    rcases List.mem_append.1 hz with hz | hz
    · exact hsince z hz
    · cases List.mem_singleton.1 hz
      exact ha

/-- An entry that records `c` makes `c` the most recent record. -/
theorem concat_iff (hrec : ∀ b', rec a b' ↔ b' = b) {c : β} :
    MostRecent rec (l ++ [a]) c ↔ c = b := by
  constructor
  · rintro ⟨past, x, since, h, hx, hsince⟩
    rcases List.eq_nil_or_concat since with rfl | ⟨since, y, rfl⟩
    · obtain ⟨-, hax⟩ := List.append_inj' h rfl
      cases hax
      exact (hrec c).1 hx
    · rw [List.concat_eq_append, ← List.cons_append, ← List.append_assoc] at h
      obtain ⟨-, hay⟩ := List.append_inj' h rfl
      cases hay
      exact absurd ((hrec b).2 rfl) (hsince a (by simp) b)
  · rintro rfl
    exact concat ((hrec _).2 rfl)

/-- The recorded value comes from an entry of the history. -/
theorem exists_mem (h : MostRecent rec l b) : ∃ a ∈ l, rec a b := by
  obtain ⟨past, a, since, rfl, ha, -⟩ := h
  exact ⟨a, by simp, ha⟩

theorem exists_iff : (∃ b, MostRecent rec l b) ↔ ∃ a ∈ l, ∃ b, rec a b := by
  constructor
  · rintro ⟨b, h⟩
    obtain ⟨a, ha, hb⟩ := h.exists_mem
    exact ⟨a, ha, b, hb⟩
  · intro h
    induction l using List.reverseRecOn with
    | nil => simp at h
    | append_singleton l x ih =>
      by_cases hx : ∃ b, rec x b
      · obtain ⟨b, hb⟩ := hx
        exact ⟨b, concat hb⟩
      · obtain ⟨a, ha, b, hb⟩ := h
        have hal : a ∈ l := by
          rcases List.mem_append.1 ha with ha | ha
          · exact ha
          · cases List.mem_singleton.1 ha
            exact absurd ⟨b, hb⟩ hx
        obtain ⟨b', hb'⟩ := ih ⟨a, hal, b, hb⟩
        exact ⟨b', (concat_of_not fun c hc => hx ⟨c, hc⟩).2 hb'⟩

end MostRecent
