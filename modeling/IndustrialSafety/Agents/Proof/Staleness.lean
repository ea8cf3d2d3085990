import IndustrialSafety.Agents.Proof.Spec
import IndustrialSafety.Py.Instances

/-!
# Ageing readings

What time does to the Gas Risk agent. `GasRisk.calculateRisk_ageing`: the risk of a silent sensor
moves from the fresh score towards the elevated floor, and never past it.
`GasRisk.calculateConfidence_degrades`: worse data does not raise the confidence, unless the readings
are gone and the last of them had already decayed below the confidence in missing data.
-/

open Py

variable {R : Type} [Field R] [LinearOrder R] [IsStrictOrderedRing R] {M : Math R}

namespace GasRisk

/-! ## Risk -/

/-- The share of the fresh score that is left at `simTime`. -/
def freshness (M : Math R) (config : GasRiskConfig R) (timestamp simTime : Instant) : R :=
  M.decay config.decayLambda (max (minutes (simTime - timestamp)) 0)

section
variable {config : GasRiskConfig R} {timestamp simTime : Instant}

omit [IsStrictOrderedRing R] in
theorem freshness_pos : 0 < freshness M config timestamp simTime := M.decay_pos _ _

theorem freshness_le_one (hrate : 0 < config.decayLambda) :
    freshness M config timestamp simTime ≤ 1 :=
  Exponential.decay_le_one hrate.le (le_max_right _ _)

/-- Until the timestamp of the reading nothing decays. -/
theorem freshness_of_le (h : simTime ≤ timestamp) : freshness M config timestamp simTime = 1 := by
  rw [freshness, max_eq_right (minutes_nonpos (sub_nonpos.2 h)), M.decay_zero]

theorem freshness_of_ge (h : timestamp ≤ simTime) :
    freshness M config timestamp simTime = M.decay config.decayLambda (minutes (simTime - timestamp)) := by
  rw [freshness, max_eq_left (minutes_nonneg (sub_nonneg.2 h))]

theorem freshness_antitone (hrate : 0 < config.decayLambda) :
    Antitone (freshness M config timestamp) := fun _ _ hst =>
  (Exponential.decay_strictAnti hrate).antitone
    (max_le_max_right 0 (minutes_mono (sub_le_sub_right hst timestamp)))

theorem freshness_mono_timestamp (hrate : 0 < config.decayLambda) :
    Monotone fun timestamp => freshness M config timestamp simTime := fun _ _ hst =>
  (Exponential.decay_strictAnti hrate).antitone
    (max_le_max_right 0 (minutes_mono (sub_le_sub_left hst simTime)))

omit [IsStrictOrderedRing R] in
/-- Both branches of the risk are one relaxation. -/
theorem readingRisk_eq_relax {latest : GasReading R} {alarmThreshold elevatedFloor : R} :
    readingRisk M latest alarmThreshold elevatedFloor simTime config =
      relax elevatedFloor (M.saturate 100 config.steepnessK (latest.value / alarmThreshold))
        (freshness M config latest.timestamp simTime) := by
  unfold readingRisk
  dsimp only
  split
  case isTrue h => rw [freshness, max_eq_right h, M.decay_zero, relax_one]
  case isFalse h => rw [freshness, max_eq_left (not_le.1 h).le]

end

/-- **Staleness never overshoots.** As time passes the risk stays between the fresh score and the
elevated floor, moves from the one towards the other, and may be resumed from any point of its way. -/
theorem calculateRisk_ageing (hexp : ∀ x y, M.exp (x + y) = M.exp x * M.exp y)
    {readings : List (GasReading R)} {latest : GasReading R} (hlast : readings.getLast? = some latest)
    {alarmThreshold : R} (hthreshold : 0 < alarmThreshold) (elevatedFloor : R)
    {config : GasRiskConfig R} (hrate : 0 < config.decayLambda) :
    let fresh := 100 * (1 - M.exp (-config.steepnessK * (latest.value / alarmThreshold)))
    ∃ score : Instant → R,
      (∀ simTime, calculateRisk M readings alarmThreshold elevatedFloor simTime config =
        .ok (score simTime)) ∧
      (∀ simTime ≤ latest.timestamp, score simTime = fresh) ∧
      (∀ simTime, score simTime ∈ Set.uIcc fresh elevatedFloor) ∧
      (fresh ≤ elevatedFloor → Monotone score) ∧ (elevatedFloor ≤ fresh → Antitone score) ∧
      ∀ d₁ d₂ : Int, 0 ≤ d₁ → 0 ≤ d₂ → score (latest.timestamp + d₁ + d₂) =
        relax elevatedFloor (score (latest.timestamp + d₁))
          (M.exp (-config.decayLambda * minutes d₂)) := by
  intro fresh
  have hscore : ∀ simTime, readingRisk M latest alarmThreshold elevatedFloor simTime config =
      relax elevatedFloor fresh (freshness M config latest.timestamp simTime) :=
    fun _ => readingRisk_eq_relax
  refine ⟨fun t => readingRisk M latest alarmThreshold elevatedFloor t config,
    fun t => calculateRisk_ok.2 (.inr ⟨latest, hlast, hthreshold.ne', rfl⟩), fun t ht => ?_,
    fun t => ?_, fun h s t hst => ?_, fun h s t hst => ?_, fun d₁ d₂ h₁ h₂ => ?_⟩
  · dsimp only
    rw [hscore, freshness_of_le ht, relax_one]
  · dsimp only
    rw [hscore]
    exact relax_mem_uIcc freshness_pos.le (freshness_le_one hrate)
  · dsimp only
    rw [hscore, hscore]
    exact relax_anti_weight h (freshness_antitone hrate hst)
  · dsimp only
    rw [hscore, hscore]
    exact relax_mono_weight h (freshness_antitone hrate hst)
  · dsimp only
    have h₁₂ : latest.timestamp ≤ latest.timestamp + d₁ + d₂ :=
      (le_add_of_nonneg_right h₁).trans (le_add_of_nonneg_right h₂)
    rw [hscore, hscore, relax_relax, freshness_of_ge h₁₂, freshness_of_ge (le_add_of_nonneg_right h₁),
      add_assoc, add_sub_cancel_left, add_sub_cancel_left, minutes_add, Exponential.decay_add hexp]
    rfl

/-- A reading at the alarm threshold scores 75, and less and less as it ages. -/
theorem calculateRisk_ageing_alarm : ∃ score : Instant → ℝ, score 0 = 75 ∧ Antitone score ∧
    ∀ simTime, calculateRisk Math.real [⟨0, 10⟩] 10 40 simTime (GasRiskConfig.default Math.real) =
      .ok (score simTime) := by
  have hlast : ([⟨0, 10⟩] : List (GasReading ℝ)).getLast? = some ⟨0, 10⟩ := rfl
  have hrate : 0 < (GasRiskConfig.default Math.real).decayLambda :=
    div_pos Math.real.ln2_pos (by norm_num)
  have h75 : 100 * (1 - Math.real.exp (-(GasRiskConfig.default Math.real).steepnessK * (10 / 10))) =
      75 := by
    rw [div_self (by norm_num), mul_one]
    change 100 * (1 - Math.real.exp (-(2 * Math.real.ln2))) = 75
    rw [real_exp_neg_two_ln2]
    norm_num
  obtain ⟨score, hscore, hfresh, -, -, hanti, -⟩ :=
    calculateRisk_ageing (M := Math.real) Real.exp_add hlast (show (0 : ℝ) < 10 by norm_num) 40 hrate
  exact ⟨score, (hfresh 0 le_rfl).trans h75, hanti (h75.symm ▸ by norm_num), hscore⟩

/-! ## Confidence -/

/-- Worse data: fewer readings or none, of which the latest is no newer, and a calibration that is no
newer or unknown. -/
structure Degrades (readings readings' : List (GasReading R))
    (lastCalibratedAt lastCalibratedAt' : Option Instant) : Prop where
  dropped : readings'.length ≤ readings.length
  latest : ∀ latest' ∈ readings'.getLast?, ∃ latest ∈ readings.getLast?,
    latest'.timestamp ≤ latest.timestamp
  calibration : ∀ t' ∈ lastCalibratedAt', ∃ t ∈ lastCalibratedAt, t' ≤ t

omit [Field R] [LinearOrder R] [IsStrictOrderedRing R] in
/-- Dropping any of the readings degrades the data. -/
theorem Degrades.of_sublist {readings readings' : List (GasReading R)}
    (hsorted : readings.Pairwise fun a b => a.timestamp ≤ b.timestamp) (h : readings'.Sublist readings)
    (lastCalibratedAt : Option Instant) :
    Degrades readings readings' lastCalibratedAt lastCalibratedAt := by
  refine ⟨h.length_le, fun latest' hl => ?_, fun t ht => ⟨t, ht, le_rfl⟩⟩
  have hmem := h.subset (List.mem_of_getLast? hl)
  cases hlast : readings.getLast? with
  | none =>
    rw [List.getLast?_eq_none_iff.1 hlast] at hmem
    cases hmem
  | some latest =>
    refine ⟨latest, rfl, ?_⟩
    obtain ⟨older, rfl⟩ := List.getLast?_eq_some_iff.1 hlast
    rcases List.mem_append.1 hmem with hold | hlatest
    · exact (List.pairwise_append.1 hsorted).2.2 _ hold _ (List.mem_singleton.2 rfl)
    · rw [List.mem_singleton.1 hlatest]

section
variable {config : GasRiskConfig R} {simTime : Instant}

omit [IsStrictOrderedRing R] in
theorem le_calibrationScore (hle : config.uncalibratedConfidenceFloor ≤ 1) (t : Option Instant) :
    config.uncalibratedConfidenceFloor ≤ calibrationScore t simTime config := by
  unfold calibrationScore
  cases t with
  | none => exact le_rfl
  | some x =>
    dsimp only
    split
    · exact hle
    · exact le_rfl

theorem calibrationScore_mono (hle : config.uncalibratedConfidenceFloor ≤ 1) {t t' : Option Instant}
    (h : ∀ x' ∈ t', ∃ x ∈ t, x' ≤ x) :
    calibrationScore t' simTime config ≤ calibrationScore t simTime config := by
  cases t' with
  | none => exact le_calibrationScore hle t
  | some x' =>
    obtain ⟨x, hx, hxx⟩ := h x' rfl
    cases hx
    by_cases hfresh : totalSeconds (simTime - x') / 86400 ≤ config.calibrationStaleDays
    · have hage : totalSeconds (simTime - x) / 86400 ≤ config.calibrationStaleDays := by
        refine le_trans ?_ hfresh
        have : ((simTime - x : Int) : R) ≤ (simTime - x' : Int) :=
          Int.cast_le.2 (sub_le_sub_left hxx simTime)
        unfold totalSeconds
        gcongr
      rw [calibrationScore, calibrationScore, if_pos hfresh, if_pos hage]
    · refine le_trans (le_of_eq ?_) (le_calibrationScore hle _)
      rw [calibrationScore, if_neg hfresh]

/-- The history sub-score. -/
def historyScore (config : GasRiskConfig R) (count : Nat) : R :=
  if config.minReadingsForRegression ≤ count then 1 else config.insufficientHistoryConfidenceFloor

omit [IsStrictOrderedRing R] in
theorem le_historyScore (hle : config.insufficientHistoryConfidenceFloor ≤ 1) (n : Nat) :
    config.insufficientHistoryConfidenceFloor ≤ historyScore config n := by
  unfold historyScore
  split
  · exact hle
  · exact le_rfl

omit [IsStrictOrderedRing R] in
theorem historyScore_mono (hle : config.insufficientHistoryConfidenceFloor ≤ 1) :
    Monotone (historyScore config) := fun n m h => by
  by_cases hn : config.minReadingsForRegression ≤ n
  · rw [historyScore, historyScore, if_pos hn, if_pos (hn.trans h)]
  · refine le_trans (le_of_eq ?_) (le_historyScore hle m)
    rw [historyScore, if_neg hn]

omit [IsStrictOrderedRing R] in
theorem calculateConfidence_of_last {readings : List (GasReading R)} {latest : GasReading R}
    (hlast : readings.getLast? = some latest) (lastCalibratedAt : Option Instant) :
    calculateConfidence M readings lastCalibratedAt simTime config =
      min (min (freshness M config latest.timestamp simTime)
        (calibrationScore lastCalibratedAt simTime config)) (historyScore config readings.length) := by
  unfold calculateConfidence
  rw [hlast]
  rfl

/-- As long as there is a reading, each of the three sub-scores falls. -/
theorem calculateConfidence_mono (hrate : 0 < config.decayLambda)
    (hcalibrated : config.uncalibratedConfidenceFloor ≤ 1)
    (hhistory : config.insufficientHistoryConfidenceFloor ≤ 1) {readings readings' : List (GasReading R)}
    {lastCalibratedAt lastCalibratedAt' : Option Instant}
    (h : Degrades readings readings' lastCalibratedAt lastCalibratedAt') (hne : readings' ≠ []) :
    calculateConfidence M readings' lastCalibratedAt' simTime config ≤
      calculateConfidence M readings lastCalibratedAt simTime config := by
  have hlast' := List.getLast?_eq_some_getLast hne
  obtain ⟨latest, hlast, hle⟩ := h.latest _ hlast'
  rw [calculateConfidence_of_last hlast', calculateConfidence_of_last hlast]
  exact min_le_min (min_le_min (freshness_mono_timestamp hrate hle)
    (calibrationScore_mono hcalibrated h.calibration)) (historyScore_mono hhistory h.dropped)

omit [IsStrictOrderedRing R] in
/-- The confidence in missing data is passed only by a reading that has not decayed below it. -/
theorem missing_le_calculateConfidence
    (hcalibrated : config.missingDataConfidence ≤ config.uncalibratedConfidenceFloor)
    (hcalibrated' : config.uncalibratedConfidenceFloor ≤ 1)
    (hhistory : config.missingDataConfidence ≤ config.insufficientHistoryConfidenceFloor)
    (hhistory' : config.insufficientHistoryConfidenceFloor ≤ 1) {readings : List (GasReading R)}
    {lastCalibratedAt : Option Instant} :
    config.missingDataConfidence ≤ calculateConfidence M readings lastCalibratedAt simTime config ↔
      ∀ latest ∈ readings.getLast?,
        config.missingDataConfidence ≤ freshness M config latest.timestamp simTime := by
  cases hlast : readings.getLast? with
  | none =>
    rw [calculateConfidence, hlast]
    exact iff_of_true le_rfl nofun
  | some latest =>
    rw [calculateConfidence_of_last hlast, le_min_iff, le_min_iff]
    constructor
    · rintro ⟨⟨hfresh, -⟩, -⟩ _ ⟨⟩
      exact hfresh
    · intro h
      exact ⟨⟨h _ rfl, hcalibrated.trans (le_calibrationScore hcalibrated' _)⟩,
        hhistory.trans (le_historyScore hhistory' _)⟩

end

/-- **Less information never means more confidence**, unless no reading is left and the freshness of the
last one had already fallen below the confidence in missing data: after `limit` minutes. -/
theorem calculateConfidence_degrades {limit : R}
    (hlimit : M.exp (-(GasRiskConfig.default M).decayLambda * limit) =
      (GasRiskConfig.default M).missingDataConfidence)
    {readings readings' : List (GasReading R)} {lastCalibratedAt lastCalibratedAt' : Option Instant}
    (h : Degrades readings readings' lastCalibratedAt lastCalibratedAt') (simTime : Instant) :
    calculateConfidence M readings' lastCalibratedAt' simTime (GasRiskConfig.default M) ≤
        calculateConfidence M readings lastCalibratedAt simTime (GasRiskConfig.default M) ↔
      (readings' = [] → ∀ latest ∈ readings.getLast?,
        minutes (simTime - latest.timestamp) ≤ limit) := by
  have hrate : 0 < (GasRiskConfig.default M).decayLambda := div_pos M.ln2_pos (by norm_num)
  have hlimit : M.decay (GasRiskConfig.default M).decayLambda limit = 0.1 := hlimit
  have hanti := Exponential.decay_strictAnti (E := M.toExponential) hrate
  have hpos : 0 < limit := by
    refine hanti.lt_iff_gt.1 ?_
    rw [hlimit, M.decay_zero]
    norm_num
  -- the freshness is above 0.1 until `limit`
  have hfresh : ∀ timestamp, 0.1 ≤ freshness M (GasRiskConfig.default M) timestamp simTime ↔
      minutes (simTime - timestamp) ≤ limit := by
    intro timestamp
    rw [freshness, ← hlimit, hanti.le_iff_ge, max_le_iff]
    exact and_iff_left hpos.le
  have h03 : (0.3 : R) ≤ 1 := by norm_num
  have h05 : (0.5 : R) ≤ 1 := by norm_num
  by_cases hne : readings' = []
  · subst hne
    refine Iff.trans ?_ (forall_prop_of_true rfl).symm
    refine (missing_le_calculateConfidence ?_ h03 ?_ h05).trans (forall₂_congr fun latest _ => ?_)
    · change (0.1 : R) ≤ 0.3
      norm_num
    · change (0.1 : R) ≤ 0.5
      norm_num
    · exact hfresh latest.timestamp
  · exact iff_of_true (calculateConfidence_mono hrate h03 h05 h hne) fun h => absurd h hne

/-- Over the reals `limit` is about 49.8 minutes. -/
theorem real_decay_limit : Math.real.exp (-(GasRiskConfig.default Math.real).decayLambda *
    (15 * Real.log 10 / Real.log 2)) = (GasRiskConfig.default Math.real).missingDataConfidence := by
  have h2 : Real.log 2 ≠ 0 := (Real.log_pos one_lt_two).ne'
  have hexponent : -(Real.log 2 / 15) * (15 * Real.log 10 / Real.log 2) = -Real.log 10 := by
    field_simp
  change Real.exp (-(Real.log 2 / 15) * (15 * Real.log 10 / Real.log 2)) = 0.1
  rw [hexponent, Real.exp_neg, Real.exp_log (by norm_num)]
  norm_num

/-- Losing a reading that is 40 minutes old does not raise the confidence. -/
theorem calculateConfidence_degrades_forty :
    calculateConfidence Math.real [] (some 0) 2400000000 (GasRiskConfig.default Math.real) ≤
      calculateConfidence Math.real [⟨0, 5⟩] (some 0) 2400000000 (GasRiskConfig.default Math.real) := by
  refine (calculateConfidence_degrades real_decay_limit
    (.of_sublist (List.pairwise_singleton _ _) (List.nil_sublist _) _) _).2 fun _ latest hlast => ?_
  cases hlast
  have h2 : 0 < Real.log 2 := Real.log_pos one_lt_two
  have hlog : 8 * Real.log 2 ≤ 3 * Real.log 10 := by
    have := Real.log_le_log (by norm_num) (show (2 : ℝ) ^ 8 ≤ 10 ^ 3 by norm_num)
    rwa [Real.log_pow, Real.log_pow] at this
  rw [le_div_iff₀ h2]
  norm_num [minutes, totalSeconds]
  linarith

/-- Losing a reading that is an hour old raises it from a sixteenth to a tenth. -/
theorem calculateConfidence_dropped_hour :
    ¬∀ (readings readings' : List (GasReading ℚ)) (lastCalibratedAt lastCalibratedAt' : Option Instant)
      (simTime : Instant), Degrades readings readings' lastCalibratedAt lastCalibratedAt' →
        calculateConfidence Math.dyadic readings' lastCalibratedAt' simTime
            (GasRiskConfig.default Math.dyadic) ≤
          calculateConfidence Math.dyadic readings lastCalibratedAt simTime
            (GasRiskConfig.default Math.dyadic) := by
  intro h
  have h := h [⟨0, 5⟩] [] (some 0) (some 0) 3600000000
    (.of_sublist (List.pairwise_singleton _ _) (List.nil_sublist _) _)
  revert h
  decide +kernel

end GasRisk
