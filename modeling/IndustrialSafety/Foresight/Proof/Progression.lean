import IndustrialSafety.Foresight.Progression
import IndustrialSafety.Foresight.Proof.Forecast
import IndustrialSafety.Historical.Proof.Analytics
import Mathlib.Data.Rat.Floor

/-!
# What the progression counts

A stage and an early warning name a tier of the forecast and count the matches that reach its horizon,
not those that show the tier there (`supportingMatches_truthful_iff`). The resolution is the first normal
step after the anchor, whether or not the incident was away from normal before
(`expectedResolution_counts_iff`).
-/

namespace Foresight

open Py Historical Excursion

section
variable {R Uuid : Type}

/-- The items of a point that observed a tier. -/
def observing (point : ForecastPoint R Uuid) (tier : Tier) : List (ForecastEvidence R Uuid) :=
  point.evidence.filter (·.observedTier = tier)

/-- All items of a point observed one tier. -/
def Unanimous (point : ForecastPoint R Uuid) : Prop :=
  ∀ x ∈ point.evidence, ∀ y ∈ point.evidence, x.observedTier = y.observedTier

/-- A stage that names a tier counts the items of its point that observed it. -/
def StageTruthful (point : Option (ForecastPoint R Uuid)) (stage : ProgressionStage) : Prop :=
  ∀ tier ∈ stage.tier, ∃ p ∈ point, stage.supportingMatches = (observing p tier).length

/-- What a point of the forecast is, whatever the matches are. -/
structure Voted (matched : List (TrajectoryMatch R Uuid)) (point : ForecastPoint R Uuid) : Prop where
  length_le : point.evidence.length ≤ matched.length
  tier_none : point.projectedTier = none ↔ point.evidence = []
  tier_observed : ∀ tier ∈ point.projectedTier, ∃ item ∈ point.evidence, item.observedTier = tier

variable [Field R] [LinearOrder R]

/-! ## The points -/

theorem forecastPoint_voted {matched : List (TrajectoryMatch R Uuid)} {horizon : Int}
    {point : ForecastPoint R Uuid} (h : forecastPoint matched horizon = .ok point) :
    Voted matched point := by
  unfold forecastPoint at h
  obtain ⟨found, hfound, h⟩ := Except.bind_eq_ok.1 h
  have hlength : (found.filterMap id).length ≤ matched.length := by
    rw [(Except.mapM_eq_ok.1 hfound).length_eq]
    exact List.length_filterMap_le id found
  dsimp only at h
  generalize found.filterMap id = evidence at h hlength
  split at h
  · cases h
    exact ⟨Nat.zero_le _, iff_of_true rfl rfl, by simp⟩
  · rename_i hne
    obtain ⟨risk, -, h⟩ := Except.bind_eq_ok.1 h
    rw [maxBy_eq] at h
    cases hvote : (tierWeights evidence).argmax Prod.snd with
    | none =>
      rw [hvote] at h
      cases h
    | some winner =>
      obtain ⟨tier, weight⟩ := winner
      rw [hvote] at h
      cases h
      refine ⟨hlength, iff_of_false (Option.some_ne_none _) hne, ?_⟩
      rintro tier ⟨⟩
      exact (mem_tierWeights (List.argmax_mem hvote)).2

theorem generateForecast_voted {matched : List (TrajectoryMatch R Uuid)} {horizons : List Int}
    {points : List (ForecastPoint R Uuid)} (h : generateForecast matched horizons = .ok points) :
    ∀ p ∈ points, Voted matched p := by
  intro p hp
  obtain ⟨horizon, -, hpoint⟩ := (Except.mapM_eq_ok.1 h).exists_of_mem_right hp
  exact forecastPoint_voted hpoint

omit [Field R] [LinearOrder R] in
/-- Every item counts as support of the tier iff they all observed it. -/
theorem observing_length_iff {matched : List (TrajectoryMatch R Uuid)} {point : ForecastPoint R Uuid}
    (h : Voted matched point) {tier : Tier} (htier : point.projectedTier = some tier) :
    point.evidence.length = (observing point tier).length ↔ Unanimous point := by
  obtain ⟨item, hitem, hobserved⟩ := h.tier_observed tier htier
  have hall : point.evidence.length = (observing point tier).length ↔
      ∀ x ∈ point.evidence, x.observedTier = tier := by
    rw [observing, eq_comm, List.length_filter_eq_length_iff]
    simp
  rw [hall]
  constructor
  · intro hsame x hx y hy
    rw [hsame x hx, hsame y hy]
  · intro hsame x hx
    rw [hsame x hx item hitem, hobserved]

omit [Field R] [LinearOrder R] in
/-- A point without a tier has no items. -/
theorem unanimous_of_none {matched : List (TrajectoryMatch R Uuid)} {point : ForecastPoint R Uuid}
    (h : Voted matched point) (hnone : point.projectedTier = none) : Unanimous point := by
  intro x hx
  rw [h.tier_none.1 hnone] at hx
  cases hx

/-! ## The stages -/

omit [Field R] [LinearOrder R] in
theorem stageFromForecastPoint_truthful_iff {matched : List (TrajectoryMatch R Uuid)}
    {point : Option (ForecastPoint R Uuid)} (h : ∀ p ∈ point, Voted matched p) (total : ℕ) :
    StageTruthful point (stageFromForecastPoint point total) ↔ ∀ p ∈ point, Unanimous p := by
  cases point with
  | none => exact iff_of_true nofun nofun
  | some p =>
    have hp := h p rfl
    cases htier : p.projectedTier with
    | none =>
      have hstage : (stageFromForecastPoint (some p) total).tier = none := by
        simp [stageFromForecastPoint, htier]
      refine iff_of_true (fun tier hmem => ?_) fun q hq => ?_
      · rw [hstage] at hmem
        cases hmem
      · cases hq
        exact unanimous_of_none hp htier
    | some tier =>
      have hstage : (stageFromForecastPoint (some p) total).tier = some tier ∧
          (stageFromForecastPoint (some p) total).supportingMatches = p.evidence.length := by
        simp [stageFromForecastPoint, htier]
      rw [StageTruthful, hstage.1, hstage.2]
      simp only [Option.mem_some_iff, forall_eq', exists_eq_left']
      exact observing_length_iff hp htier

omit [Field R] [LinearOrder R] in
theorem stageFromForecastPoint_le {matched : List (TrajectoryMatch R Uuid)}
    {point : Option (ForecastPoint R Uuid)} (h : ∀ p ∈ point, Voted matched p) :
    let stage := stageFromForecastPoint point matched.length
    stage.supportingMatches ≤ stage.totalMatches := by
  cases point with
  | none => exact Nat.zero_le _
  | some p =>
    cases htier : p.projectedTier with
    | none => simp [stageFromForecastPoint, htier]
    | some tier => simpa [stageFromForecastPoint, htier] using (h p rfl).length_le

/-! ## The early warning -/

/-- The point that an early warning is about, and the tier it names there. -/
def warned (points : List (ForecastPoint R Uuid)) : Option (ForecastPoint R Uuid × Tier) :=
  match points.find? (criticalMajority ·) with
  | some point => some (point, .critical)
  | none => points.findSome? fun p => p.projectedTier.map (p, ·)

/-- A warning counts the items of the point it is about that observed the tier it names. -/
def WarningTruthful (points : List (ForecastPoint R Uuid)) (signal : EarlyWarningSignal) : Prop :=
  ∀ point tier, warned points = some (point, tier) →
    (∃ text, signal.why = text ++ s!"{upper tier} within {point.horizonMinutes} minutes.") ∧
      signal.supportingMatches = (observing point tier).length

omit [Field R] [LinearOrder R] in
theorem nearest_eq_some {points : List (ForecastPoint R Uuid)} {p : ForecastPoint R Uuid} {tier : Tier}
    (h : (points.findSome? fun p => p.projectedTier.map (p, ·)) = some (p, tier)) :
    p ∈ points ∧ p.projectedTier = some tier := by
  obtain ⟨q, hq, hmap⟩ := List.exists_of_findSome?_eq_some h
  obtain ⟨tier', htier, heq⟩ := Option.map_eq_some_iff.1 hmap
  cases heq
  exact ⟨hq, htier⟩

omit [Field R] [LinearOrder R] in
/-- The nearest point with a tier is the first one with evidence. -/
theorem find?_evidence {matched : List (TrajectoryMatch R Uuid)} {points : List (ForecastPoint R Uuid)}
    (h : ∀ p ∈ points, Voted matched p) : points.find? (·.evidence ≠ []) =
      (points.findSome? fun p => p.projectedTier.map (p, ·)).map Prod.fst := by
  induction points with
  | nil => rfl
  | cons p points ih =>
    obtain ⟨hp, hpoints⟩ := List.forall_mem_cons.1 h
    rw [List.find?_cons, List.findSome?_cons]
    cases htier : p.projectedTier with
    | none =>
      have hnil : decide (p.evidence ≠ []) = false := by simp [hp.tier_none.1 htier]
      rw [hnil]
      exact ih hpoints
    | some tier =>
      have hne : p.evidence ≠ [] := by
        rw [Ne, ← hp.tier_none, htier]
        exact Option.some_ne_none tier
      have hsome : decide (p.evidence ≠ []) = true := by simpa using hne
      rw [hsome]
      rfl

/-- The warning where no point has a critical majority. -/
theorem deriveEarlyWarning_nearest (currentTier : Tier) (matched : List (TrajectoryMatch R Uuid))
    {points : List (ForecastPoint R Uuid)} (hcritical : points.find? (criticalMajority ·) = none)
    {p : ForecastPoint R Uuid} {tier : Tier}
    (hnearest : (points.findSome? fun p => p.projectedTier.map (p, ·)) = some (p, tier)) :
    let signal := deriveEarlyWarning currentTier matched points
    (∃ text, signal.why = text ++ s!"{upper tier} within {p.horizonMinutes} minutes.") ∧
      signal.supportingMatches = p.evidence.length ∧ signal.totalMatches = matched.length := by
  unfold deriveEarlyWarning
  rw [hcritical, hnearest]
  dsimp only
  obtain ⟨category, verb, hverb⟩ : ∃ category verb,
      (if currentTier.rank < tier.rank then ("Potential Escalation", "rising")
        else if tier.rank < currentTier.rank then ("Potential Recovery", "falling")
        else ("Potential Stabilization", "holding")) = (category, verb) := ⟨_, _, rfl⟩
  rw [hverb]
  refine ⟨⟨s!"{p.evidence.length} of {matched.length} matched incident(s) show tier {verb} to ", ?_⟩,
    rfl, rfl⟩
  apply String.ext
  simp [ToString.toString]

/-- The warning of a critical majority counts the critical items. -/
theorem deriveEarlyWarning_critical (currentTier : Tier) (matched : List (TrajectoryMatch R Uuid))
    {points : List (ForecastPoint R Uuid)} {p : ForecastPoint R Uuid}
    (hcritical : points.find? (criticalMajority ·) = some p) :
    let signal := deriveEarlyWarning currentTier matched points
    (∃ text, signal.why = text ++ s!"{upper .critical} within {p.horizonMinutes} minutes.") ∧
      signal.supportingMatches = (observing p .critical).length ∧
        signal.totalMatches = matched.length := by
  unfold deriveEarlyWarning
  rw [hcritical]
  refine ⟨⟨s!"{(criticalItems p).length} of {p.evidence.length} matched incident(s) reached ", ?_⟩,
    rfl, rfl⟩
  apply String.ext
  simp [upper, ToString.toString]

theorem deriveEarlyWarning_none (currentTier : Tier) (matched : List (TrajectoryMatch R Uuid))
    {points : List (ForecastPoint R Uuid)} (hcritical : points.find? (criticalMajority ·) = none)
    (hnearest : (points.findSome? fun p => p.projectedTier.map (p, ·)) = none) :
    let signal := deriveEarlyWarning currentTier matched points
    signal.supportingMatches = 0 ∧ signal.totalMatches = matched.length := by
  unfold deriveEarlyWarning
  rw [hcritical, hnearest]
  exact ⟨rfl, rfl⟩

theorem deriveEarlyWarning_truthful_iff (currentTier : Tier) {matched : List (TrajectoryMatch R Uuid)}
    {points : List (ForecastPoint R Uuid)} (h : ∀ p ∈ points, Voted matched p) :
    WarningTruthful points (deriveEarlyWarning currentTier matched points) ↔
      ((∀ p ∈ points, ¬criticalMajority p) →
        ∀ p ∈ points.find? (·.evidence ≠ []), Unanimous p) := by
  rw [find?_evidence h]
  cases hcritical : points.find? (criticalMajority ·) with
  | some q =>
    have hq : ∃ p ∈ points, criticalMajority p :=
      ⟨q, List.mem_of_find?_eq_some hcritical, by simpa using List.find?_some hcritical⟩
    refine iff_of_true ?_ fun hnone => absurd hnone (by push Not; exact hq)
    intro point tier hwarned
    rw [warned, hcritical] at hwarned
    cases hwarned
    obtain ⟨hwhy, hsupporting, -⟩ := deriveEarlyWarning_critical currentTier matched hcritical
    exact ⟨hwhy, hsupporting⟩
  | none =>
    have hnone : ∀ p ∈ points, ¬criticalMajority p := by simpa using hcritical
    have hwarned : warned points = points.findSome? fun p => p.projectedTier.map (p, ·) := by
      rw [warned, hcritical]
    unfold WarningTruthful
    rw [hwarned, forall_prop_of_true hnone]
    cases hnearest : points.findSome? fun p => p.projectedTier.map (p, ·) with
    | none => exact iff_of_true nofun nofun
    | some nearest =>
      obtain ⟨p, tier⟩ := nearest
      obtain ⟨hp, htier⟩ := nearest_eq_some hnearest
      obtain ⟨hwhy, hsupporting, -⟩ :=
        deriveEarlyWarning_nearest currentTier matched hcritical hnearest
      simp only [Option.map_some, Option.mem_some_iff, forall_eq']
      rw [← observing_length_iff (h p hp) htier]
      constructor
      · intro htruthful
        rw [← hsupporting]
        exact (htruthful p tier rfl).2
      · rintro hcount _ _ ⟨⟩
        exact ⟨hwhy, hsupporting.trans hcount⟩

theorem deriveEarlyWarning_le (currentTier : Tier) {matched : List (TrajectoryMatch R Uuid)}
    {points : List (ForecastPoint R Uuid)} (h : ∀ p ∈ points, Voted matched p) :
    let signal := deriveEarlyWarning currentTier matched points
    signal.supportingMatches ≤ signal.totalMatches := by
  dsimp only
  cases hcritical : points.find? (criticalMajority ·) with
  | some q =>
    obtain ⟨-, hsupporting, htotal⟩ := deriveEarlyWarning_critical currentTier matched hcritical
    rw [hsupporting, htotal]
    exact (List.length_filter_le _ _).trans (h q (List.mem_of_find?_eq_some hcritical)).length_le
  | none =>
    cases hnearest : points.findSome? fun p => p.projectedTier.map (p, ·) with
    | none =>
      obtain ⟨hsupporting, htotal⟩ := deriveEarlyWarning_none currentTier matched hcritical hnearest
      rw [hsupporting]
      exact Nat.zero_le _
    | some nearest =>
      obtain ⟨p, tier⟩ := nearest
      obtain ⟨-, hsupporting, htotal⟩ :=
        deriveEarlyWarning_nearest currentTier matched hcritical hnearest
      rw [hsupporting, htotal]
      exact (h p (nearest_eq_some hnearest).1).length_le

/-! ## The resolution -/

/-- The stage of a list of durations. -/
def resolution [FloorRing R] (total : ℕ) (durations : List R) : ProgressionStage :=
  if durations = [] then
    ⟨"Unavailable", none, 0, total,
      "No matched incident returned to NORMAL within its own persisted replay window."⟩
  else
    ⟨s!"Return to NORMAL (typically ~{fixed0 (Mean.mean durations)} min)", some .normal,
      durations.length, total,
      s!"{durations.length} of {total} matched incident(s) returned to NORMAL, " ++
        s!"averaging {fixed0 (Mean.mean durations)} minutes after the matched point."⟩

theorem resolution_counts [FloorRing R] (total : ℕ) (durations : List R) :
    (resolution total durations).supportingMatches = durations.length ∧
      (resolution total durations).totalMatches = total := by
  unfold resolution
  split
  · rename_i hnil
    rw [hnil]
    exact ⟨rfl, rfl⟩
  · exact ⟨rfl, rfl⟩

omit [LinearOrder R] in
theorem minutesToResolution_eq {m : TrajectoryMatch R Uuid} {anchor : TrajectoryStep R Uuid}
    (h : m.trajectory.steps[m.anchorIndex]? = some anchor) : minutesToResolution m =
      .ok (((m.trajectory.steps.drop (m.anchorIndex + 1)).find? (·.tier = .normal)).map
        fun step => minutes (step.timestamp - anchor.timestamp)) := by
  unfold minutesToResolution anchorStep
  rw [h]
  rfl

omit [LinearOrder R] in
theorem minutesToResolution_found {matched : List (TrajectoryMatch R Uuid)}
    (h : ∀ m ∈ matched, m.anchorIndex < m.trajectory.steps.length) :
    ∃ found : List (Option R), matched.mapM minutesToResolution = .ok found :=
  Except.mapM_total fun m hm => ⟨_, minutesToResolution_eq (List.getElem?_eq_getElem (h m hm))⟩

variable [IsStrictOrderedRing R]

theorem expectedResolution_eq [FloorRing R] {matched : List (TrajectoryMatch R Uuid)}
    {found : List (Option R)} (h : matched.mapM minutesToResolution = .ok found) :
    expectedResolution matched = .ok (resolution matched.length (found.filterMap id)) := by
  unfold expectedResolution resolution
  rw [h, Except.ok_bind]
  dsimp only
  split
  · rfl
  · rename_i hne
    have hlength := (Mean.length_pos (R := R) hne).ne'
    rw [div_eq_ok.2 ⟨hlength, rfl⟩, Except.ok_bind]
    rfl

theorem deriveProgression_eq [FloorRing R] (currentTier : Tier)
    {matched : List (TrajectoryMatch R Uuid)} (points : List (ForecastPoint R Uuid))
    {found : List (Option R)} (h : matched.mapM minutesToResolution = .ok found) :
    deriveProgression currentTier matched points = .ok {
      currentStage := ⟨upper currentTier, some currentTier, matched.length, matched.length,
        "Current persisted tier for this zone - not a projection."⟩
      likelyNextStage := stageFromForecastPoint points[0]? matched.length
      likelyFollowingStage := stageFromForecastPoint points[1]? matched.length
      expectedResolution := resolution matched.length (found.filterMap id) } := by
  unfold deriveProgression
  rw [expectedResolution_eq h]
  rfl

/-! ## The counts -/

/-- A progression and a warning that count the matches showing what they name. -/
structure SupportTruthful (points : List (ForecastPoint R Uuid)) (progression : IncidentProgression)
    (signal : EarlyWarningSignal) : Prop where
  next : StageTruthful points[0]? progression.likelyNextStage
  following : StageTruthful points[1]? progression.likelyFollowingStage
  warning : WarningTruthful points signal
  stages_le : ∀ stage ∈ [progression.currentStage, progression.likelyNextStage,
    progression.likelyFollowingStage, progression.expectedResolution],
      stage.supportingMatches ≤ stage.totalMatches
  warning_le : signal.supportingMatches ≤ signal.totalMatches

/-- The points that a tier is named of observed one each. -/
structure UnanimousWhereNamed (points : List (ForecastPoint R Uuid)) : Prop where
  next : ∀ p ∈ points[0]?, Unanimous p
  following : ∀ p ∈ points[1]?, Unanimous p
  warning : (∀ p ∈ points, ¬criticalMajority p) →
    ∀ p ∈ points.find? (·.evidence ≠ []), Unanimous p

/-- **The counts are of what is named** iff the points they are taken of are unanimous: a mixed point
counts the matches of every tier. -/
theorem supportingMatches_truthful_iff [FloorRing R] (currentTier : Tier)
    {matched : List (TrajectoryMatch R Uuid)}
    (hanchor : ∀ m ∈ matched, m.anchorIndex < m.trajectory.steps.length) {horizons : List Int}
    {points : List (ForecastPoint R Uuid)} (hpoints : generateForecast matched horizons = .ok points) :
    ∃ progression, deriveProgression currentTier matched points = .ok progression ∧
      (SupportTruthful points progression (deriveEarlyWarning currentTier matched points) ↔
        UnanimousWhereNamed points) := by
  obtain ⟨found, hfound⟩ := minutesToResolution_found hanchor
  have hvoted := generateForecast_voted hpoints
  have hat : ∀ i, ∀ p ∈ points[i]?, Voted matched p := fun i p hp =>
    hvoted p (List.mem_of_getElem? hp)
  refine ⟨_, deriveProgression_eq currentTier points hfound, ?_⟩
  constructor
  · rintro ⟨hnext, hfollowing, hwarning, -, -⟩
    exact ⟨(stageFromForecastPoint_truthful_iff (hat 0) _).1 hnext,
      (stageFromForecastPoint_truthful_iff (hat 1) _).1 hfollowing,
      (deriveEarlyWarning_truthful_iff currentTier hvoted).1 hwarning⟩
  · rintro ⟨hnext, hfollowing, hwarning⟩
    refine ⟨(stageFromForecastPoint_truthful_iff (hat 0) _).2 hnext,
      (stageFromForecastPoint_truthful_iff (hat 1) _).2 hfollowing,
      (deriveEarlyWarning_truthful_iff currentTier hvoted).2 hwarning, ?_,
      deriveEarlyWarning_le currentTier hvoted⟩
    simp only [List.forall_mem_cons]
    refine ⟨le_rfl, stageFromForecastPoint_le (hat 0), stageFromForecastPoint_le (hat 1), ?_, nofun⟩
    obtain ⟨hsupporting, htotal⟩ := resolution_counts matched.length (found.filterMap id)
    rw [hsupporting, htotal, (Except.mapM_eq_ok.1 hfound).length_eq]
    exact List.length_filterMap_le id found

/-! ## Returns to normal -/

/-- The step is normal. -/
def AtRest (step : TrajectoryStep R Uuid) : Prop := step.tier = .normal

/-- The sequence of a trajectory, as the analytics scan it. -/
def sequence (trajectory : Trajectory R Uuid) : List (Instant × Tier) :=
  trajectory.steps.map fun step => (step.timestamp, step.tier)

/-- A match counts as resolved iff its incident returns to normal after the anchor, that is iff one of
its episodes ends there, with the minutes to the first such return. -/
structure CountsReturn (m : TrajectoryMatch R Uuid) (found : Option R) : Prop where
  returns : found.isSome ↔ ∃ j, Returns AtRest m.trajectory.steps m.anchorIndex j
  episode : found.isSome ↔
    ∃ i j, IsExcursion Normal (sequence m.trajectory) i j ∧ m.anchorIndex < j
  minutes : ∀ t ∈ found, ∃ j anchor back,
    IsLeast {j | Returns AtRest m.trajectory.steps m.anchorIndex j} j ∧
    m.trajectory.steps[m.anchorIndex]? = some anchor ∧ m.trajectory.steps[j]? = some back ∧
    t = Py.minutes (back.timestamp - anchor.timestamp)

/-- The anchor and the step after it are both normal. -/
def StaysAtRest (m : TrajectoryMatch R Uuid) : Prop :=
  ∃ anchor next, m.trajectory.steps[m.anchorIndex]? = some anchor ∧
    m.trajectory.steps[m.anchorIndex + 1]? = some next ∧ AtRest anchor ∧ AtRest next

omit [Field R] [LinearOrder R] [IsStrictOrderedRing R] in
theorem exists_episode_iff (m : TrajectoryMatch R Uuid) :
    (∃ i j, IsExcursion Normal (sequence m.trajectory) i j ∧ m.anchorIndex < j) ↔
      ∃ j, Returns AtRest m.trajectory.steps m.anchorIndex j := by
  unfold sequence
  simp only [isExcursion_map]
  exact exists_ends_after

omit [LinearOrder R] [IsStrictOrderedRing R] in
/-- Where the anchor or the next step is not normal, the first normal step is the first return. -/
theorem minutesToResolution_returns {m : TrajectoryMatch R Uuid} {anchor : TrajectoryStep R Uuid}
    (hanchor : m.trajectory.steps[m.anchorIndex]? = some anchor) (h : ¬StaysAtRest m)
    {found : Option R} (hfound : minutesToResolution m = .ok found) : CountsReturn m found := by
  have hreturns : ∀ j, Returns AtRest m.trajectory.steps m.anchorIndex j ↔
      m.anchorIndex < j ∧ ∃ step, m.trajectory.steps[j]? = some step ∧ AtRest step := fun _ =>
    returns_iff hanchor fun hrest next hnext hnormal => h ⟨anchor, next, hanchor, hnext, hrest, hnormal⟩
  rw [minutesToResolution_eq hanchor] at hfound
  cases hfound
  cases hfind : (m.trajectory.steps.drop (m.anchorIndex + 1)).find? (·.tier = .normal) with
  | none =>
    have hnone : ¬∃ j, Returns AtRest m.trajectory.steps m.anchorIndex j := by
      rintro ⟨j, hj⟩
      obtain ⟨hlt, step, hstep, hnormal⟩ := (hreturns j).1 hj
      exact find?_drop_none hfind hlt hstep hnormal
    exact ⟨iff_of_false nofun hnone, iff_of_false nofun ((exists_episode_iff m).not.2 hnone), nofun⟩
  | some step =>
    obtain ⟨j, hleast, hstep⟩ := find?_drop hfind
    have hset : {j | m.anchorIndex < j ∧ ∃ step, m.trajectory.steps[j]? = some step ∧
        step.tier = .normal} = {j | Returns AtRest m.trajectory.steps m.anchorIndex j} :=
      Set.ext fun j => (hreturns j).symm
    rw [hset] at hleast
    have hsome : ∃ j, Returns AtRest m.trajectory.steps m.anchorIndex j := ⟨j, hleast.1⟩
    refine ⟨iff_of_true rfl hsome, iff_of_true rfl ((exists_episode_iff m).2 hsome), ?_⟩
    rintro t ⟨⟩
    exact ⟨j, anchor, step, hleast, hanchor, hstep, rfl⟩

/-- Where the anchor and the next step are both normal, the next step counts as a return. -/
theorem minutesToResolution_stays {m : TrajectoryMatch R Uuid}
    (hordered : m.trajectory.steps.Pairwise fun a b => a.timestamp < b.timestamp) (h : StaysAtRest m)
    {found : Option R} (hfound : minutesToResolution m = .ok found) : ¬CountsReturn m found := by
  obtain ⟨anchor, next, hanchor, hnext, hrest, hnormal⟩ := h
  have hfind : (m.trajectory.steps.drop (m.anchorIndex + 1)).find? (·.tier = .normal) = some next := by
    obtain ⟨hlt, hget⟩ := List.getElem?_eq_some_iff.1 hnext
    rw [List.drop_eq_getElem_cons hlt, hget]
    exact List.find?_cons_of_pos (decide_eq_true hnormal)
  rw [minutesToResolution_eq hanchor, hfind] at hfound
  cases hfound
  intro hcounts
  obtain ⟨j, anchor', back, hleast, hanchor', hback, hminutes⟩ := hcounts.minutes _ rfl
  cases hanchor.symm.trans hanchor'
  have hlater : m.anchorIndex + 1 < j := by
    refine lt_of_le_of_ne (returns_next hleast.1) ?_
    rintro rfl
    exact not_returns_succ hanchor hrest hleast.1
  obtain ⟨hi, rfl⟩ := List.getElem?_eq_some_iff.1 hnext
  obtain ⟨hj, rfl⟩ := List.getElem?_eq_some_iff.1 hback
  have htime := List.pairwise_iff_getElem.1 hordered _ _ hi hj hlater
  have hpos : (0 : R) < Py.minutes (m.trajectory.steps[j].timestamp -
      m.trajectory.steps[m.anchorIndex + 1].timestamp) := minutes_pos (Int.sub_pos.2 htime)
  have hsplit : (Py.minutes (m.trajectory.steps[j].timestamp - anchor.timestamp) : R) = _ :=
    (congrArg Py.minutes (sub_add_sub_cancel' _ anchor.timestamp _).symm).trans
      (minutes_add (m.trajectory.steps[m.anchorIndex + 1].timestamp - anchor.timestamp) _)
  dsimp only at hminutes
  linarith

theorem forall₂_iff_forall {α β : Type} {S : α → β → Prop} {P : α → Prop} {l : List α} {l' : List β}
    (h : List.Forall₂ (fun a b => S a b ↔ P a) l l') : List.Forall₂ S l l' ↔ ∀ a ∈ l, P a := by
  induction h with
  | nil => exact iff_of_true .nil nofun
  | cons hab _ ih => rw [List.forall₂_cons, List.forall_mem_cons, hab, ih]

/-- **The resolution counts real returns** iff no match is anchored at a normal step with another one
after it: such a match counts as resolved at once. -/
theorem expectedResolution_counts_iff [FloorRing R] {matched : List (TrajectoryMatch R Uuid)}
    (hanchor : ∀ m ∈ matched, m.anchorIndex < m.trajectory.steps.length)
    (hordered : ∀ m ∈ matched, m.trajectory.steps.Pairwise fun a b => a.timestamp < b.timestamp) :
    ∃ found : List (Option R), matched.mapM minutesToResolution = .ok found ∧
      expectedResolution matched = .ok (resolution matched.length (found.filterMap id)) ∧
      (List.Forall₂ CountsReturn matched found ↔ ∀ m ∈ matched, ¬StaysAtRest m) := by
  obtain ⟨found, hfound⟩ := minutesToResolution_found hanchor
  refine ⟨found, hfound, expectedResolution_eq hfound, ?_⟩
  refine forall₂_iff_forall (((List.forall₂_and_left _ _).2
    ⟨fun m hm => hm, Except.mapM_eq_ok.1 hfound⟩).imp ?_)
  rintro m found ⟨hm, hok⟩
  constructor
  · intro hcounts hstays
    exact minutesToResolution_stays (hordered m hm) hstays hok hcounts
  · intro hstays
    exact minutesToResolution_returns (List.getElem?_eq_getElem (hanchor m hm)) hstays hok

end

/-! ## Two matches that go on differently -/

def tierStep (timestamp : Instant) (tier : Tier) : TrajectoryStep ℚ ℕ :=
  { riskStep timestamp 0 with tier }

/-- One incident rises to elevated within twenty minutes, the other one to watch. -/
def mixed : List (TrajectoryMatch ℚ ℕ) :=
  [⟨⟨"first", none, 1, [tierStep 0 .normal, tierStep 1200000000 .elevated]⟩, 0, 2 / 3, 1⟩,
    ⟨⟨"second", none, 1, [tierStep 0 .normal, tierStep 1200000000 .watch]⟩, 0, 1 / 3, 1⟩]

theorem mixed_proper : ∀ m ∈ mixed, Proper m := by
  simp only [mixed, List.forall_mem_cons]
  refine ⟨⟨by decide, by decide, by norm_num, by norm_num⟩,
    ⟨by decide, by decide, by norm_num, by norm_num⟩, nofun⟩

theorem mixed_truthful_iff : ∃ points, generateForecast mixed [15] = .ok points ∧
    ∃ progression, deriveProgression .normal mixed points = .ok progression ∧
      (SupportTruthful points progression (deriveEarlyWarning .normal mixed points) ↔
        UnanimousWhereNamed points) := by
  obtain ⟨points, hpoints, -⟩ :=
    generateForecast_points mixed_proper (by decide : ∀ h ∈ ([15] : List Int), 0 < h)
  exact ⟨points, hpoints, supportingMatches_truthful_iff .normal
    (fun m hm => (mixed_proper m hm).anchor_lt) hpoints⟩

/-- Two matches support the elevated tier, and one of them shows it. -/
theorem mixed_supporting : ∃ points progression, generateForecast mixed [15] = .ok points ∧
    deriveProgression .normal mixed points = .ok progression ∧
      progression.likelyNextStage.tier = some .elevated ∧
      progression.likelyNextStage.supportingMatches = 2 ∧
      (∀ p ∈ points[0]?, (observing p .elevated).length = 1) ∧
      ¬SupportTruthful points progression (deriveEarlyWarning .normal mixed points) := by
  have hstage : (generateForecast mixed [15]).toOption.map (fun points =>
      ((stageFromForecastPoint points[0]? 2).tier,
        (stageFromForecastPoint points[0]? 2).supportingMatches,
        points[0]?.map fun p => (observing p .elevated).length)) =
          some (some .elevated, 2, some 1) := by decide +kernel
  obtain ⟨points, hpoints, hstage⟩ := Except.toOption_map_eq_some.1 hstage
  rw [Prod.mk.injEq, Prod.mk.injEq] at hstage
  obtain ⟨htier, hsupporting, hcount⟩ := hstage
  have hone : ∀ p ∈ points[0]?, (observing p .elevated).length = 1 := by
    intro p hp
    rw [hp] at hcount
    exact Option.some.inj hcount
  obtain ⟨found, hfound⟩ := minutesToResolution_found fun m hm => (mixed_proper m hm).anchor_lt
  refine ⟨points, _, hpoints, deriveProgression_eq .normal points hfound, htier, hsupporting, hone,
    fun h => ?_⟩
  obtain ⟨p, hp, hsame⟩ := h.next .elevated htier
  have hlength := hsupporting.symm.trans hsame
  rw [hone p hp] at hlength
  cases hlength

/-- An incident that is not away from normal within its window. -/
def resting : TrajectoryMatch ℚ ℕ :=
  ⟨⟨"resting", none, 1, [tierStep 0 .normal, tierStep 1200000000 .normal]⟩, 0, 1, 1⟩

theorem resting_counts_iff : ∃ found : List (Option ℚ),
    [resting].mapM minutesToResolution = .ok found ∧
    expectedResolution [resting] = .ok (resolution 1 (found.filterMap id)) ∧
      (List.Forall₂ CountsReturn [resting] found ↔ ∀ m ∈ [resting], ¬StaysAtRest m) :=
  expectedResolution_counts_iff (by decide) (by unfold resting; decide)

/-- It counts as returned to normal. -/
theorem resting_resolved : ∃ stage, expectedResolution [resting] = .ok stage ∧
    stage.supportingMatches = 1 ∧
      ¬∃ j, Returns AtRest resting.trajectory.steps resting.anchorIndex j := by
  have hfound : [resting].mapM minutesToResolution = .ok [some (20 : ℚ)] := by decide +kernel
  refine ⟨_, expectedResolution_eq hfound, (resolution_counts 1 _).1, ?_⟩
  rintro ⟨j, -, k, -, -, step, hstep, hnot⟩
  have hrest : ∀ step ∈ resting.trajectory.steps, step.tier = .normal := by unfold resting; decide
  exact hnot (hrest step (List.mem_of_getElem? hstep))

end Foresight
