import IndustrialSafety.Historical.Analytics
import IndustrialSafety.Lib.Excursion
import IndustrialSafety.Lib.Result

/-!
# The escalation episodes of a sequence

`escalationEpisodeMinutes_exact`: a zone's sequence gives one duration for each of its excursions from
normal that end, in order, from its first step to the first normal one. A run that is still open gives
none, in its own sequence or in the next.
-/

namespace Historical

open Py Excursion

variable {R : Type} [Field R]

/-- The tier of a step is normal. -/
abbrev Normal (step : Instant × Tier) : Prop := step.2 = .normal

/-- A duration is the time from the first step of a span to the step that ends it. -/
def SpanMinutes (sequence : List (Instant × Tier)) (span : ℕ × ℕ) (duration : R) : Prop :=
  ∃ first back, sequence[span.1]? = some first ∧ sequence[span.2]? = some back ∧
    duration = minutes (back.1 - first.1)

/-- The durations of the excursions of a sequence, in order. -/
def Episodes (sequence : List (Instant × Tier)) (durations : List R) : Prop :=
  ∃ episodes : List (ℕ × ℕ), episodes.Pairwise (fun p q => p.2 < q.1) ∧
    (∀ i j, (i, j) ∈ episodes ↔ IsExcursion Normal sequence i j) ∧
      List.Forall₂ (SpanMinutes sequence) episodes durations

/-- The loop and the scan: the time at which an episode started is that of the step where it did. -/
theorem escalationEpisodes_spans {sequence : List (Instant × Tier)} {start : Option ℕ} {k : ℕ}
    {rest : List (Instant × Tier)} (hrest : sequence.drop k = rest) {time : Option Instant}
    (htime : start.bind (fun i => (sequence[i]?).map Prod.fst) = time)
    (hstart : start.isSome = time.isSome) :
    List.Forall₂ (SpanMinutes sequence) (spans Normal start k rest)
      (escalationEpisodes (R := R) time rest) := by
  induction rest generalizing start time k with
  | nil =>
    cases start <;> cases time <;> exact .nil
  | cons step rest ih =>
    obtain ⟨timestamp, tier⟩ := step
    have hstep : sequence[k]? = some (timestamp, tier) := by
      rw [← List.head?_drop, hrest]
      rfl
    have hnext : sequence.drop (k + 1) = rest := by
      rw [← List.tail_drop, hrest]
      rfl
    cases start with
    | none =>
      cases time with
      | some _ => cases hstart
      | none =>
        rw [spans, escalationEpisodes]
        by_cases hnormal : tier = .normal
        · rw [if_pos hnormal, if_neg (not_not.2 hnormal)]
          exact ih hnext rfl rfl
        · rw [if_neg hnormal, if_pos hnormal]
          exact ih hnext (by simp [hstep]) rfl
    | some i =>
      cases time with
      | none => cases hstart
      | some episodeStart =>
        rw [spans, escalationEpisodes]
        by_cases hnormal : tier = .normal
        · rw [if_pos hnormal, if_pos hnormal]
          obtain ⟨first, hfirst, rfl⟩ := Option.map_eq_some_iff.1 htime
          exact .cons ⟨first, _, hfirst, hstep, rfl⟩ (ih hnext rfl rfl)
        · rw [if_neg hnormal, if_neg hnormal]
          exact ih hnext htime rfl

theorem episodes_escalationEpisodes (sequence : List (Instant × Tier)) :
    Episodes sequence (escalationEpisodes (R := R) none sequence) :=
  ⟨spans Normal none 0 sequence, pairwise_spans, fun _ _ => mem_spans,
    escalationEpisodes_spans List.drop_zero rfl rfl⟩

variable [LinearOrder R] [IsStrictOrderedRing R]

/-- The steps of an episode are in the order of their timestamps. -/
theorem Episodes.pos {sequence : List (Instant × Tier)} {durations : List R}
    (h : Episodes sequence durations) (hsorted : sequence.Pairwise fun a b => a.1 < b.1) :
    ∀ duration ∈ durations, 0 < duration := by
  obtain ⟨episodes, -, hepisodes, hdurations⟩ := h
  intro duration hduration
  obtain ⟨⟨i, j⟩, hmem, first, back, hfirst, hback, rfl⟩ := hdurations.exists_of_mem_right hduration
  have hlt := ((hepisodes i j).1 hmem).lt
  obtain ⟨hi, rfl⟩ := List.getElem?_eq_some_iff.1 hfirst
  obtain ⟨hj, rfl⟩ := List.getElem?_eq_some_iff.1 hback
  have htime := List.pairwise_iff_getElem.1 hsorted i j hi hj hlt
  exact minutes_pos (Int.sub_pos.2 htime)

/-- **The episodes are exact**: each zone's own, each one positive. -/
theorem escalationEpisodeMinutes_exact {assessmentsByZone : List (List (Instant × Tier))}
    (h : ∀ sequence ∈ assessmentsByZone, sequence.Pairwise fun a b => a.1 < b.1) :
    ∃ durations : List (List R), escalationEpisodeMinutes assessmentsByZone = durations.flatten ∧
      List.Forall₂ Episodes assessmentsByZone durations ∧
        ∀ duration ∈ durations.flatten, 0 < duration := by
  refine ⟨assessmentsByZone.map (escalationEpisodes none), List.flatMap_def, ?_, ?_⟩
  · rw [List.forall₂_map_right_iff]
    exact List.forall₂_same.2 fun sequence _ => episodes_escalationEpisodes sequence
  · intro duration hduration
    obtain ⟨durations, hdurations, hduration⟩ := List.mem_flatten.1 hduration
    obtain ⟨sequence, hsequence, rfl⟩ := List.mem_map.1 hdurations
    exact (episodes_escalationEpisodes sequence).pos (h sequence hsequence) duration hduration

/-- An episode of a minute and one that stays open, in two zones. -/
def twoZones : List (List (Instant × Tier)) :=
  [[(0, .normal), (60000000, .watch), (120000000, .normal), (180000000, .critical)],
    [(0, .normal), (60000000, .elevated)]]

theorem twoZones_episodes : ∃ durations : List (List ℚ),
    escalationEpisodeMinutes twoZones = durations.flatten ∧
      List.Forall₂ Episodes twoZones durations ∧ ∀ duration ∈ durations.flatten, 0 < duration :=
  escalationEpisodeMinutes_exact (by unfold twoZones; decide)

end Historical
