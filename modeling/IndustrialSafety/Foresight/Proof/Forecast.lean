import IndustrialSafety.Foresight.Forecast
import IndustrialSafety.Foresight.Proof.Matching
import IndustrialSafety.Lib.Mean
import IndustrialSafety.Lib.Result
import IndustrialSafety.Py.Instances

/-!
# A forecast cites what was observed

`generateForecast_honest`: the evidence of a horizon is one item for each match whose trajectory reaches
it, from the earliest step there (`Cites`); the projected risk lies between the observed ones and the
projected tier is one of theirs with the most similarity.
-/

namespace Foresight

open Py

section
variable {R Uuid : Type}

/-- The trajectory has a step at or after the horizon. -/
def Reaches (horizon : Int) (m : TrajectoryMatch R Uuid) : Prop :=
  ∃ anchor ∈ m.trajectory.steps[m.anchorIndex]?, ∃ step ∈ m.trajectory.steps,
    anchor.timestamp + horizon * 60000000 ≤ step.timestamp

instance (horizon : Int) (m : TrajectoryMatch R Uuid) : Decidable (Reaches horizon m) := by
  unfold Reaches
  infer_instance

/-- A longer horizon is reached by fewer matches. -/
theorem Reaches.mono {horizon horizon' : Int} (h : horizon ≤ horizon') {m : TrajectoryMatch R Uuid}
    (hm : Reaches horizon' m) : Reaches horizon m := by
  obtain ⟨anchor, hanchor, step, hstep, hle⟩ := hm
  exact ⟨anchor, hanchor, step, hstep, by linarith⟩

/-- The item cites the earliest step of the match at or after the horizon. -/
def Cites [NatCast R] [IntCast R] [Div R] (horizon : Int) (m : TrajectoryMatch R Uuid) (item : ForecastEvidence R Uuid) : Prop :=
  ∃ anchor step, m.trajectory.steps[m.anchorIndex]? = some anchor ∧ step ∈ m.trajectory.steps ∧
    anchor.timestamp + horizon * 60000000 ≤ step.timestamp ∧
    (∀ s ∈ m.trajectory.steps, anchor.timestamp + horizon * 60000000 ≤ s.timestamp →
      step.timestamp ≤ s.timestamp) ∧
    item = ⟨m.trajectory.scenarioKey, m.trajectory.zoneId, m.similarity, step.risk, step.tier,
      step.timestamp, minutes (step.timestamp - anchor.timestamp)⟩

/-- The total similarity of a tier. -/
def support [Zero R] [Add R] (evidence : List (ForecastEvidence R Uuid)) (tier : Tier) : R :=
  ((evidence.filter (·.observedTier = tier)).map ForecastEvidence.similarity).sum

/-- A match as the matching gives it, of a trajectory with steps at increasing times. -/
structure Proper [Zero R] [One R] [LT R] [LE R] (m : TrajectoryMatch R Uuid) : Prop where
  ordered : m.trajectory.steps.Pairwise fun a b => a.timestamp < b.timestamp
  anchor_lt : m.anchorIndex < m.trajectory.steps.length
  similarity_pos : 0 < m.similarity
  similarity_le_one : m.similarity ≤ 1

/-- A point that cites the matches, and says no more than they do. -/
structure Honest [Zero R] [Add R] [Div R] [NatCast R] [IntCast R] [LE R]
    (matched : List (TrajectoryMatch R Uuid)) (horizon : Int) (point : ForecastPoint R Uuid) : Prop where
  horizonMinutes : point.horizonMinutes = horizon
  evidence : List.Forall₂ (Cites horizon) (matched.filter (Reaches horizon ·)) point.evidence
  risk_none : point.projectedRisk = none ↔ point.evidence = []
  tier_none : point.projectedTier = none ↔ point.evidence = []
  reason : point.unavailableReason.isSome ↔ point.evidence = []
  risk_ge : ∀ risk ∈ point.projectedRisk, ∃ item ∈ point.evidence, item.observedRisk ≤ risk
  risk_le : ∀ risk ∈ point.projectedRisk, ∃ item ∈ point.evidence, risk ≤ item.observedRisk
  tier_observed : ∀ tier ∈ point.projectedTier, ∃ item ∈ point.evidence, item.observedTier = tier
  tier_most : ∀ tier ∈ point.projectedTier, ∀ other,
    support point.evidence other ≤ support point.evidence tier

/-! ## The evidence -/

theorem nearestStepAtOrAfter_eq_some {steps : List (TrajectoryStep R Uuid)} {anchorIndex : ℕ}
    {target : Instant} {step : TrajectoryStep R Uuid}
    (h : nearestStepAtOrAfter steps anchorIndex target = some step) :
    step ∈ steps.drop (anchorIndex + 1) ∧ target ≤ step.timestamp ∧
      ∀ s ∈ steps.drop (anchorIndex + 1), target ≤ s.timestamp → step.timestamp ≤ s.timestamp := by
  have hmem := List.mem_filter.1 (List.argmin_mem h)
  refine ⟨hmem.1, by simpa using hmem.2, fun s hs hle => ?_⟩
  exact List.le_of_mem_argmin (List.mem_filter.2 ⟨hs, by simpa using hle⟩) h

/-- With increasing timestamps, what comes later than the anchor stands after it. -/
theorem mem_drop_of_lt {steps : List (TrajectoryStep R Uuid)}
    (hordered : steps.Pairwise fun a b => a.timestamp < b.timestamp) {i : ℕ}
    {anchor step : TrajectoryStep R Uuid} (hanchor : steps[i]? = some anchor) (hstep : step ∈ steps)
    (hlt : anchor.timestamp < step.timestamp) : step ∈ steps.drop (i + 1) := by
  obtain ⟨hi, rfl⟩ := List.getElem?_eq_some_iff.1 hanchor
  obtain ⟨j, hj, rfl⟩ := List.mem_iff_getElem.1 hstep
  rw [List.mem_drop_iff_getElem]
  by_cases hij : i < j
  · exact ⟨j - (i + 1), by omega, by congr 1; omega⟩
  · rcases Nat.lt_or_eq_of_le (Nat.le_of_not_lt hij) with hji | rfl
    · exact absurd hlt (lt_asymm (List.pairwise_iff_getElem.1 hordered j i hj hi hji))
    · exact absurd hlt (lt_irrefl _)

variable [Field R] [LinearOrder R]

theorem citation_spec {m : TrajectoryMatch R Uuid} (hm : Proper m) {horizon : Int}
    (hpos : 0 < horizon) : ∃ found, citation horizon m = .ok found ∧
      if Reaches horizon m then ∃ item, found = some item ∧ Cites horizon m item
      else found = none := by
  obtain ⟨anchor, hanchor⟩ : ∃ anchor, m.trajectory.steps[m.anchorIndex]? = some anchor :=
    ⟨_, List.getElem?_eq_getElem hm.anchor_lt⟩
  have hlater : ∀ s ∈ m.trajectory.steps, anchor.timestamp + horizon * 60000000 ≤ s.timestamp →
      s ∈ m.trajectory.steps.drop (m.anchorIndex + 1) := fun s hs hle =>
    mem_drop_of_lt hm.ordered hanchor hs (by linarith)
  have hcitation : citation horizon m = .ok ((nearestStepAtOrAfter m.trajectory.steps m.anchorIndex
      (anchor.timestamp + horizon * 60000000)).map fun step => ⟨m.trajectory.scenarioKey,
        m.trajectory.zoneId, m.similarity, step.risk, step.tier, step.timestamp,
        minutes (step.timestamp - anchor.timestamp)⟩) := by
    unfold citation anchorStep
    rw [hanchor]
    simp only [Except.pure_eq_ok, Except.ok_bind]
    cases nearestStepAtOrAfter m.trajectory.steps m.anchorIndex
      (anchor.timestamp + horizon * 60000000) <;> rfl
  cases hnearest : nearestStepAtOrAfter m.trajectory.steps m.anchorIndex
      (anchor.timestamp + horizon * 60000000) with
  | none =>
    rw [hnearest] at hcitation
    refine ⟨none, hcitation, ?_⟩
    rw [if_neg]
    rintro ⟨anchor', hanchor', step, hstep, hle⟩
    cases hanchor.symm.trans hanchor'
    unfold nearestStepAtOrAfter at hnearest
    rw [List.argmin_eq_none, List.filter_eq_nil_iff] at hnearest
    exact hnearest step (hlater step hstep hle) (by simpa using hle)
  | some step =>
    rw [hnearest] at hcitation
    obtain ⟨hmem, hle, hleast⟩ := nearestStepAtOrAfter_eq_some hnearest
    have hstep := List.mem_of_mem_drop hmem
    refine ⟨_, hcitation, ?_⟩
    rw [if_pos ⟨anchor, hanchor, step, hstep, hle⟩]
    exact ⟨_, rfl, anchor, step, hanchor, hstep, hle,
      fun s hs hle' => hleast s (hlater s hs hle') hle', rfl⟩

/-! ## The vote -/

omit [LinearOrder R] in
theorem tierWeights_eq (evidence : List (ForecastEvidence R Uuid)) : tierWeights evidence =
    (Group.group (evidence.map fun item => (item.observedTier, item.similarity))).map
      fun (tier, similarities) => (tier, similarities.sum) := by
  simp only [tierWeights, List.sum_eq_foldl]

omit [LinearOrder R] in
theorem mem_tierWeights {evidence : List (ForecastEvidence R Uuid)} {tier : Tier} {weight : R}
    (h : (tier, weight) ∈ tierWeights evidence) :
    weight = support evidence tier ∧ ∃ item ∈ evidence, item.observedTier = tier := by
  rw [tierWeights_eq] at h
  obtain ⟨⟨k, similarities⟩, hgroup, heq⟩ := List.mem_map.1 h
  cases heq
  have hkey := Group.mem_group_keys.1 (List.mem_map_of_mem (f := Prod.fst) hgroup)
  obtain ⟨p, hp, rfl⟩ := List.mem_map.1 hkey
  obtain ⟨item, hitem, rfl⟩ := List.mem_map.1 hp
  refine ⟨?_, item, hitem, rfl⟩
  rw [Group.values_eq hgroup, support, List.filter_map, List.map_map]
  rfl

omit [LinearOrder R] in
theorem tierWeights_of_observed {evidence : List (ForecastEvidence R Uuid)}
    {item : ForecastEvidence R Uuid} (h : item ∈ evidence) :
    (item.observedTier, support evidence item.observedTier) ∈ tierWeights evidence := by
  have hkey : item.observedTier ∈ (Group.group (evidence.map fun item =>
      (item.observedTier, item.similarity))).map Prod.fst := by
    rw [Group.mem_group_keys, List.map_map]
    exact List.mem_map_of_mem (f := Prod.fst ∘ fun item => (item.observedTier, item.similarity)) h
  obtain ⟨⟨k, similarities⟩, hgroup, hk⟩ := List.mem_map.1 hkey
  have hk : k = item.observedTier := hk
  subst hk
  have hmem : (item.observedTier, similarities.sum) ∈ tierWeights evidence := by
    rw [tierWeights_eq]
    exact List.mem_map.2 ⟨_, hgroup, rfl⟩
  rwa [(mem_tierWeights hmem).1] at hmem

omit [LinearOrder R] in
theorem support_of_not_observed {evidence : List (ForecastEvidence R Uuid)} {tier : Tier}
    (h : ∀ item ∈ evidence, item.observedTier ≠ tier) : support evidence tier = 0 := by
  have hnone : evidence.filter (·.observedTier = tier) = [] := by
    rw [List.filter_eq_nil_iff]
    simpa using h
  rw [support, hnone]
  rfl

variable [IsStrictOrderedRing R]

theorem argmax_tierWeights {evidence : List (ForecastEvidence R Uuid)}
    (hpos : ∀ item ∈ evidence, 0 < item.similarity) {tier : Tier} {weight : R}
    (h : (tierWeights evidence).argmax Prod.snd = some (tier, weight)) :
    (∃ item ∈ evidence, item.observedTier = tier) ∧
      ∀ other, support evidence other ≤ support evidence tier := by
  obtain ⟨rfl, item, hitem, hobserved⟩ := mem_tierWeights (List.argmax_mem h)
  refine ⟨⟨item, hitem, hobserved⟩, fun other => ?_⟩
  by_cases hother : ∃ item ∈ evidence, item.observedTier = other
  · obtain ⟨item', hitem', rfl⟩ := hother
    exact List.le_of_mem_argmax (f := Prod.snd) (tierWeights_of_observed hitem') h
  · push Not at hother
    rw [support_of_not_observed hother]
    refine List.sum_nonneg fun x hx => ?_
    obtain ⟨y, hy, rfl⟩ := List.mem_map.1 hx
    exact (hpos y (List.mem_of_mem_filter hy)).le

/-! ## The points -/

omit [LinearOrder R] [IsStrictOrderedRing R] in
theorem Cites.similarity {horizon : Int} {m : TrajectoryMatch R Uuid} {item : ForecastEvidence R Uuid}
    (h : Cites horizon m item) : item.similarity = m.similarity := by
  obtain ⟨_, _, -, -, -, -, rfl⟩ := h
  rfl

/-- A point projects a weighted mean of the risks that it cites and the tier with the most support, or
nothing if it cites nothing. -/
structure Projects (point : ForecastPoint R Uuid) : Prop where
  risk_none : point.projectedRisk = none ↔ point.evidence = []
  tier_none : point.projectedTier = none ↔ point.evidence = []
  reason : point.unavailableReason.isSome ↔ point.evidence = []
  risk_ge : ∀ risk ∈ point.projectedRisk, ∃ item ∈ point.evidence, item.observedRisk ≤ risk
  risk_le : ∀ risk ∈ point.projectedRisk, ∃ item ∈ point.evidence, risk ≤ item.observedRisk
  tier_observed : ∀ tier ∈ point.projectedTier, ∃ item ∈ point.evidence, item.observedTier = tier
  tier_most : ∀ tier ∈ point.projectedTier, ∀ other,
    support point.evidence other ≤ support point.evidence tier

theorem forecastPoint_projects {matched : List (TrajectoryMatch R Uuid)} {horizon : Int}
    {found : List (Option (ForecastEvidence R Uuid))} (hfound : matched.mapM (citation horizon) = .ok found)
    (hsimilarity : ∀ item ∈ found.filterMap id, 0 < item.similarity) :
    ∃ point, forecastPoint matched horizon = .ok point ∧ point.horizonMinutes = horizon ∧
      point.evidence = found.filterMap id ∧ Projects point := by
  unfold forecastPoint
  rw [hfound, Except.ok_bind]
  dsimp only
  generalize found.filterMap id = evidence at hsimilarity
  split
  case isTrue hnil =>
    subst hnil
    refine ⟨_, rfl, rfl, rfl, ?_, ?_, ?_, ?_, ?_, ?_, ?_⟩ <;> simp
  case isFalse hne =>
    have htotal := Mean.sum_weights_pos hne hsimilarity
    rw [Py.sum_eq, Py.sum_eq, maxBy_eq]
    rw [show div _ _ = .ok _ from div_eq_ok.2 ⟨htotal.ne', rfl⟩, Except.ok_bind]
    cases hvote : (tierWeights evidence).argmax Prod.snd with
    | none =>
      obtain ⟨item, hitem⟩ := List.exists_mem_of_ne_nil evidence hne
      rw [List.argmax_eq_none] at hvote
      have hmem := tierWeights_of_observed hitem
      rw [hvote] at hmem
      cases hmem
    | some winner =>
      obtain ⟨tier, weight⟩ := winner
      obtain ⟨hobserved, hmost⟩ := argmax_tierWeights hsimilarity hvote
      refine ⟨_, rfl, rfl, rfl, ?_, ?_, ?_, ?_, ?_, ?_, ?_⟩
      · simpa using hne
      · simpa using hne
      · simpa using hne
      · rintro risk ⟨⟩
        exact Mean.exists_le_weighted ForecastEvidence.observedRisk hne hsimilarity
      · rintro risk ⟨⟩
        exact Mean.exists_ge_weighted ForecastEvidence.observedRisk hne hsimilarity
      · rintro tier ⟨⟩
        exact hobserved
      · rintro tier ⟨⟩
        exact hmost

theorem forecastPoint_honest {matched : List (TrajectoryMatch R Uuid)}
    (hmatched : ∀ m ∈ matched, Proper m) {horizon : Int} (hpos : 0 < horizon) :
    ∃ point, forecastPoint matched horizon = .ok point ∧ Honest matched horizon point := by
  obtain ⟨found, hfound, hcites⟩ := Except.mapM_found fun m (hm : m ∈ matched) =>
    citation_spec (hmatched m hm) hpos
  obtain ⟨point, hpoint, hhorizon, hevidence, h⟩ := forecastPoint_projects hfound fun item hitem => by
    obtain ⟨m, hm, hcite⟩ := hcites.exists_of_mem_right hitem
    rw [hcite.similarity]
    exact (hmatched m (List.mem_of_mem_filter hm)).similarity_pos
  exact ⟨point, hpoint, hhorizon, hevidence ▸ hcites, h.risk_none, h.tier_none, h.reason, h.risk_ge,
    h.risk_le, h.tier_observed, h.tier_most⟩

theorem generateForecast_points {matched : List (TrajectoryMatch R Uuid)}
    (hmatched : ∀ m ∈ matched, Proper m) {horizons : List Int} (hpos : ∀ h ∈ horizons, 0 < h) :
    ∃ points, generateForecast matched horizons = .ok points ∧
      List.Forall₂ (Honest matched) horizons points := by
  obtain ⟨points, hpoints⟩ := Except.mapM_total fun h (hh : h ∈ horizons) =>
    (forecastPoint_honest hmatched (hpos h hh)).imp fun _ => And.left
  refine ⟨points, hpoints,
    ((List.forall₂_and_left _ _).2 ⟨hpos, Except.mapM_eq_ok.1 hpoints⟩).imp ?_⟩
  rintro h point ⟨hh, hpoint⟩
  obtain ⟨point', hpoint', honest⟩ := forecastPoint_honest hmatched hh
  cases hpoint.symm.trans hpoint'
  exact honest

/-- **A forecast is honest** at every horizon, and a longer one cites some of the matches that a shorter
one cites. -/
theorem generateForecast_honest {matched : List (TrajectoryMatch R Uuid)}
    (hmatched : ∀ m ∈ matched, Proper m) {horizons : List Int} (hpos : ∀ h ∈ horizons, 0 < h) :
    ∃ points, generateForecast matched horizons = .ok points ∧
      List.Forall₂ (Honest matched) horizons points ∧
      ∀ p ∈ points, ∀ q ∈ points, p.horizonMinutes ≤ q.horizonMinutes →
        (matched.filter (Reaches q.horizonMinutes ·)).Sublist
          (matched.filter (Reaches p.horizonMinutes ·)) := by
  obtain ⟨points, hpoints, honest⟩ := generateForecast_points hmatched hpos
  refine ⟨points, hpoints, honest, fun p _ q _ hle => List.monotone_filter_right _ fun m hm => ?_⟩
  simpa using Reaches.mono hle (by simpa using hm)

end

/-- A match whose trajectory goes on for forty minutes. -/
def risingMatch : TrajectoryMatch ℚ ℕ :=
  ⟨⟨"then", none, 1, [riskStep 0 0, riskStep 1200000000 10, riskStep 2400000000 20]⟩, 0, 1 / 2, 1⟩

theorem risingMatch_proper : Proper risingMatch :=
  ⟨by unfold risingMatch; decide, by decide, by norm_num [risingMatch], by norm_num [risingMatch]⟩

theorem risingMatch_forecast : ∃ points, generateForecast [risingMatch] horizonsMinutes = .ok points ∧
    List.Forall₂ (Honest [risingMatch]) horizonsMinutes points ∧
    ∀ p ∈ points, ∀ q ∈ points, p.horizonMinutes ≤ q.horizonMinutes →
      ([risingMatch].filter (Reaches q.horizonMinutes ·)).Sublist
        ([risingMatch].filter (Reaches p.horizonMinutes ·)) :=
  generateForecast_honest (by simpa using risingMatch_proper) (by decide)

/-! ## A mean that is rounded -/

/-- A match of similarity `1 / 1.3` whose trajectory goes on at a risk of 45.1. -/
def steadyMatch : TrajectoryMatch Float ℕ :=
  ⟨⟨"then", none, 1, [riskStep 0 45.1, riskStep 1200000000 45.1]⟩, 0, 1 / 1.3, 1⟩

theorem steadyMatch_proper : Proper steadyMatch :=
  ⟨by unfold steadyMatch; decide, by decide, by decide +kernel, by decide +kernel⟩

/-- The mean of its one risk is more than that risk. -/
theorem steadyMatch_exceeded : Proper steadyMatch ∧ ∃ point,
    generateForecast [steadyMatch] [15] = .ok [point] ∧
      point.projectedRisk = some 45.10000000000001 ∧
      point.evidence.map ForecastEvidence.observedRisk = [45.1] ∧ (45.1 : Float) < 45.10000000000001 ∧
      ¬Honest [steadyMatch] 15 point := by
  have hpoint : (generateForecast [steadyMatch] [15]).toOption.map (·.map fun point =>
      (point.projectedRisk, point.evidence.map ForecastEvidence.observedRisk)) =
        some [(some 45.10000000000001, [45.1])] := by decide +kernel
  obtain ⟨points, hpoints, hvalues⟩ := Except.toOption_map_eq_some.1 hpoint
  obtain ⟨point, rfl, hvalue⟩ := List.map_eq_singleton_iff.1 hvalues
  rw [Prod.mk.injEq] at hvalue
  obtain ⟨hrisk, hobserved⟩ := hvalue
  refine ⟨steadyMatch_proper, point, hpoints, hrisk, hobserved, by decide +kernel, fun honest => ?_⟩
  obtain ⟨item, hitem, hle⟩ := honest.risk_le _ hrisk
  have hmem := List.mem_map_of_mem (f := ForecastEvidence.observedRisk) hitem
  rw [hobserved, List.mem_singleton] at hmem
  rw [hmem] at hle
  exact absurd hle (by decide +kernel)

end Foresight
