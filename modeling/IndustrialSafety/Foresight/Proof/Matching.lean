import IndustrialSafety.Foresight.Matching
import IndustrialSafety.Lib.Result
import IndustrialSafety.Lib.StableSort

/-!
# What the trajectory matching finds

`matchTrajectories_spec`: every candidate with a step, other than the current trajectory itself, has one
match, at the anchor with the least mean distance (`IsMatch`); the most similar ones are the answer. The
loop over the anchors is a search for the first least value (`bestAnchor_eq`), and what the slices of the
code line up are the steps counted back from the end of the window and from the anchor
(`windowedDistance_eq`).
-/

namespace Foresight

open Py Historical

section
variable {R Uuid : Type} [Field R] {distance : FeatureVector R → FeatureVector R → R}

/-- The mean distance of the steps before the anchor and in the window, both counted back from their end:
as many as there are of both. -/
def meanDistance (distance : FeatureVector R → FeatureVector R → R)
    (window steps : List (TrajectoryStep R Uuid)) (anchor : ℕ) : R :=
  (window.reverse.zipWith (fun c h => distance c.featureVector h.featureVector)
    (steps.take (anchor + 1)).reverse).sum / (min window.length (anchor + 1) : ℕ)

/-- A candidate with a step that is not the current trajectory. -/
def Eligible (current trajectory : Trajectory R Uuid) : Prop :=
  trajectory.steps ≠ [] ∧
    ¬(trajectory.scenarioKey = current.scenarioKey ∧ trajectory.zoneId = current.zoneId)

instance [DecidableEq Uuid] (current : Trajectory R Uuid) : DecidablePred (Eligible current) :=
  fun _ => inferInstanceAs (Decidable (_ ∧ _))

/-- The match of a trajectory: at the first anchor with the least mean distance. -/
structure IsMatch [LinearOrder R] (distance : FeatureVector R → FeatureVector R → R)
    (window : List (TrajectoryStep R Uuid)) (trajectory : Trajectory R Uuid)
    (m : TrajectoryMatch R Uuid) : Prop where
  cites : m.trajectory = trajectory
  anchor_lt : m.anchorIndex < trajectory.steps.length
  least : ∀ i < trajectory.steps.length, meanDistance distance window trajectory.steps m.anchorIndex ≤
    meanDistance distance window trajectory.steps i
  earliest : ∀ i < m.anchorIndex, meanDistance distance window trajectory.steps m.anchorIndex <
    meanDistance distance window trajectory.steps i
  windowLength : m.windowLength = min window.length (m.anchorIndex + 1)
  similarity : m.similarity =
    1 / (1 + meanDistance distance window trajectory.steps m.anchorIndex)
  similarity_pos : 0 < m.similarity
  similarity_le_one : m.similarity ≤ 1

/-! ## The window and its alignment -/

omit [Field R] in
theorem window_suffix (trajectory : Trajectory R Uuid) (n : Int) :
    trajectory.window n <:+ trajectory.steps ∧
      (trajectory.window n).length = min n.toNat trajectory.steps.length := by
  unfold Trajectory.window
  split
  · rename_i hn
    exact ⟨List.nil_suffix, by simp [Int.toNat_of_nonpos hn]⟩
  · exact ⟨List.drop_suffix _ _, by rw [List.length_drop]; omega⟩

theorem windowedDistance_eq {window steps : List (TrajectoryStep R Uuid)} {anchor : ℕ}
    (hwindow : window ≠ []) (hanchor : anchor < steps.length) :
    windowedDistance distance window steps anchor =
      (meanDistance distance window steps anchor, min window.length (anchor + 1)) := by
  have hpos : 0 < window.length := List.length_pos_iff.2 hwindow
  have htake : (steps.take (anchor + 1)).length = anchor + 1 := by
    rw [List.length_take]
    omega
  have hn : min window.length (anchor + 1) ≠ 0 := by omega
  set n := min window.length (anchor + 1) with hdef
  let d := fun (c h : TrajectoryStep R Uuid) => distance c.featureVector h.featureVector
  have hlength : ((window.drop (window.length - n)).zipWith d
      ((steps.take (anchor + 1)).drop (anchor + 1 - n))).length = n := by
    rw [List.length_zipWith, List.length_drop, List.length_drop, htake]
    omega
  have hsum : ((window.drop (window.length - n)).zipWith d
      ((steps.take (anchor + 1)).drop (anchor + 1 - n))).sum =
        (window.reverse.zipWith d (steps.take (anchor + 1)).reverse).sum := by
    rw [← List.sum_reverse, List.reverse_zipWith (by
      rw [List.length_drop, List.length_drop, htake]; omega), List.reverse_drop, List.reverse_drop,
      htake]
    have hwin : window.length - (window.length - n) = n := by omega
    have hcand : anchor + 1 - (anchor + 1 - n) = n := by omega
    rw [hwin, hcand, ← List.take_zipWith, List.take_of_length_le]
    rw [List.length_zipWith, List.length_reverse, List.length_reverse, htake]
  unfold windowedDistance meanDistance
  dsimp only
  rw [if_neg hn, hlength, hsum]

end

section
variable {R Uuid : Type} [Field R] [LinearOrder R] {distance : FeatureVector R → FeatureVector R → R}

/-- The loop over the anchors is the search for the first least mean distance. -/
theorem bestAnchor_eq {window steps : List (TrajectoryStep R Uuid)} (hwindow : window ≠ []) :
    bestAnchor distance window steps =
      ((List.range steps.length).argmin (meanDistance distance window steps)).map fun i =>
        (i, meanDistance distance window steps i, min window.length (i + 1)) := by
  have hpos : 0 < window.length := List.length_pos_iff.2 hwindow
  unfold bestAnchor
  suffices h : ∀ n ≤ steps.length, (List.range n).foldl (fun best anchorIndex =>
      let compared := windowedDistance distance window steps anchorIndex
      if compared.2 = 0 then best
      else if best.all fun b => compared.1 < b.2.1 then some (anchorIndex, compared.1, compared.2)
      else best) none = ((List.range n).argmin (meanDistance distance window steps)).map fun i =>
        (i, meanDistance distance window steps i, min window.length (i + 1)) from h _ le_rfl
  intro n hn
  induction n with
  | zero => rfl
  | succ n ih =>
    rw [List.range_succ, List.foldl_concat, ih (by omega), List.argmin_concat,
      windowedDistance_eq hwindow (by omega)]
    dsimp only
    rw [if_neg (by omega)]
    cases (List.range n).argmin (meanDistance distance window steps) with
    | none => rfl
    | some i =>
      simp only [Option.map_some, Option.all_some, decide_eq_true_eq]
      split <;> rfl

omit [Field R] in
theorem argmin_range_eq_some {f : ℕ → R} {n i : ℕ} (h : (List.range n).argmin f = some i) :
    i < n ∧ (∀ j < n, f i ≤ f j) ∧ ∀ j < i, f i < f j := by
  obtain ⟨hi, hleast, hfirst⟩ := List.argmin_eq_some_iff.1 h
  rw [List.mem_range] at hi
  refine ⟨hi, fun j hj => hleast j (List.mem_range.2 hj), fun j hj => ?_⟩
  by_contra hle
  have hidx := hfirst j (List.mem_range.2 (hj.trans hi)) (not_lt.1 hle)
  have hrange : ∀ k < n, (List.range n).idxOf k = k := by
    intro k hk
    have hlength : k < (List.range n).length := by simpa using hk
    have hself : (List.range n).idxOf (List.range n)[k] = k := List.nodup_range.idxOf_getElem k hlength
    rwa [List.getElem_range] at hself
  rw [hrange i hi, hrange j (hj.trans hi)] at hidx
  omega

variable [IsStrictOrderedRing R] (hdistance : ∀ a b, 0 ≤ distance a b)

include hdistance

omit [IsStrictOrderedRing R] in
theorem meanDistance_nonneg [IsOrderedRing R] (window steps : List (TrajectoryStep R Uuid)) (anchor : ℕ) :
    0 ≤ meanDistance distance window steps anchor := by
  refine div_nonneg (List.sum_nonneg fun x hx => ?_) (Nat.cast_nonneg _)
  rw [← List.map_uncurry_zip_eq_zipWith] at hx
  obtain ⟨_, -, rfl⟩ := List.mem_map.1 hx
  exact hdistance _ _

variable [DecidableEq Uuid] {current : Trajectory R Uuid} {window : List (TrajectoryStep R Uuid)}

/-- A candidate has its match if it is eligible, and none otherwise. -/
theorem matchTrajectory_spec (hwindow : window ≠ []) (trajectory : Trajectory R Uuid) :
    ∃ found, matchTrajectory distance current window trajectory = .ok found ∧
      if Eligible current trajectory then ∃ m, found = some m ∧ IsMatch distance window trajectory m
      else found = none := by
  unfold matchTrajectory
  by_cases hsame : trajectory.scenarioKey = current.scenarioKey ∧ trajectory.zoneId = current.zoneId
  · exact ⟨none, if_pos hsame, by rw [if_neg fun h => h.2 hsame]⟩
  rw [if_neg hsame, bestAnchor_eq hwindow]
  cases hbest : (List.range trajectory.steps.length).argmin
      (meanDistance distance window trajectory.steps) with
  | none =>
    rw [List.argmin_eq_none, List.range_eq_nil, List.length_eq_zero_iff] at hbest
    exact ⟨none, rfl, by rw [if_neg fun h => h.1 hbest]⟩
  | some anchor =>
    obtain ⟨hanchor, hleast, hearliest⟩ := argmin_range_eq_some hbest
    have hnonneg := meanDistance_nonneg hdistance window trajectory.steps anchor
    have hone : (0 : R) < 1 + meanDistance distance window trajectory.steps anchor := by positivity
    refine ⟨some ⟨trajectory, anchor, 1 / (1 + meanDistance distance window trajectory.steps anchor),
      min window.length (anchor + 1)⟩, ?_, ?_⟩
    · exact Except.bind_eq_ok.2 ⟨_, div_eq_ok.2 ⟨hone.ne', rfl⟩, rfl⟩
    · rw [if_pos ⟨fun h => by simp [h] at hanchor, hsame⟩]
      refine ⟨_, rfl, rfl, hanchor, hleast, hearliest, rfl, rfl, one_div_pos.2 hone, ?_⟩
      exact (div_le_one hone).2 (le_add_of_nonneg_right hnonneg)

/-- What an answer consists of, for any `topN`. -/
theorem matchTrajectories_ok (current : Trajectory R Uuid) (candidates : List (Trajectory R Uuid))
    (windowSize topN : Int) (hwindow : current.window windowSize ≠ []) :
    ∃ matched sorted, matchTrajectories distance current candidates windowSize topN =
        .ok (sliceTo topN sorted) ∧
      List.Forall₂ (IsMatch distance (current.window windowSize)) (candidates.filter (Eligible current))
        matched ∧ StableSort.Descending TrajectoryMatch.similarity matched sorted := by
  obtain ⟨found, hfound, hmatches⟩ :=
    Except.mapM_found fun trajectory (_ : trajectory ∈ candidates) =>
      matchTrajectory_spec hdistance hwindow trajectory
  refine ⟨found.filterMap id, _, ?_, hmatches, StableSort.descending_insertionSort _⟩
  unfold matchTrajectories
  dsimp only
  rw [if_neg hwindow, hfound]
  rfl

omit [IsStrictOrderedRing R] hdistance in
theorem matchTrajectories_nil {current : Trajectory R Uuid} {windowSize : Int}
    (hwindow : current.window windowSize = []) (candidates : List (Trajectory R Uuid)) (topN : Int) :
    matchTrajectories distance current candidates windowSize topN = .ok [] := by
  unfold matchTrajectories
  dsimp only
  rw [if_pos hwindow]
  rfl

theorem matchTrajectories_total (current : Trajectory R Uuid)
    (candidates : List (Trajectory R Uuid)) (windowSize topN : Int) :
    ∃ found, matchTrajectories distance current candidates windowSize topN = .ok found := by
  by_cases hwindow : current.window windowSize = []
  · exact ⟨_, matchTrajectories_nil hwindow candidates topN⟩
  · obtain ⟨_, _, hok, -⟩ := matchTrajectories_ok hdistance current candidates windowSize topN hwindow
    exact ⟨_, hok⟩

/-- **The matching meets its specification**: one match for each eligible candidate, and of these the
`topN` most similar ones, ties in the order of the candidates. -/
theorem matchTrajectories_spec (current : Trajectory R Uuid) (candidates : List (Trajectory R Uuid))
    (windowSize : Int) {topN : Int} (htop : 0 ≤ topN) :
    ∃ window found, window <:+ current.steps ∧
      window.length = min windowSize.toNat current.steps.length ∧
      matchTrajectories distance current candidates windowSize topN = .ok found ∧
      (window = [] → found = []) ∧
      (window ≠ [] → ∃ matched sorted,
        List.Forall₂ (IsMatch distance window) (candidates.filter (Eligible current)) matched ∧
          StableSort.Descending TrajectoryMatch.similarity matched sorted ∧
            found = sorted.take topN.toNat) := by
  obtain ⟨hsuffix, hlength⟩ := window_suffix current windowSize
  by_cases hwindow : current.window windowSize = []
  · exact ⟨_, [], hsuffix, hlength, matchTrajectories_nil hwindow candidates topN, fun _ => rfl,
      fun h => absurd hwindow h⟩
  · obtain ⟨matched, sorted, hok, hmatched, hsorted⟩ :=
      matchTrajectories_ok hdistance current candidates windowSize topN hwindow
    refine ⟨_, _, hsuffix, hlength, hok, fun h => absurd h hwindow, fun _ => ?_⟩
    exact ⟨matched, sorted, hmatched, hsorted, if_pos htop⟩

end

/-! ## Two trajectories -/

section
variable {R : Type}

/-- A step of a zone in which only the risk matters. -/
def riskStep [Zero R] [One R] (timestamp : Instant) (risk : R) : TrajectoryStep R ℕ :=
  ⟨timestamp, ⟨0, 0, 0, 0, risk, 1, 0, 1, 0, 0, []⟩, risk, .normal, [], 0⟩

variable [Field R]

def risingNow : Trajectory R ℕ := ⟨"now", none, 1, [riskStep 0 10, riskStep 1 20]⟩

def risingThen : Trajectory R ℕ :=
  ⟨"then", none, 1, [riskStep 0 0, riskStep 1 10, riskStep 2 20, riskStep 3 30]⟩

end

theorem risingNow_matches : ∃ window found, window <:+ (risingNow (R := ℚ)).steps ∧
    window.length = min (Int.toNat 5) (risingNow (R := ℚ)).steps.length ∧
    matchTrajectories (fun a b => |a.compoundRiskScore - b.compoundRiskScore|) risingNow
      [risingNow, risingThen] 5 3 = .ok found ∧ (window = [] → found = []) ∧
    (window ≠ [] → ∃ matched sorted,
      List.Forall₂ (IsMatch (fun a b => |a.compoundRiskScore - b.compoundRiskScore|) window)
        ([risingNow, risingThen].filter (Eligible risingNow ·)) matched ∧
          StableSort.Descending TrajectoryMatch.similarity matched sorted ∧
            found = sorted.take (Int.toNat 3)) :=
  matchTrajectories_spec (fun _ _ => abs_nonneg _) risingNow [risingNow, risingThen] 5 (by decide)

end Foresight
