import IndustrialSafety.Services.Proof.Engine

/-!
# The engine and the naive alarm

When the naive alarm trips on a fresh latest reading, the gas risk is at least `75` and the compound
score at least `30`. It reaches the watch threshold iff another agent is at or above the floor, or the
weighted sum alone reaches it (`alert_compound`); one counted worker is enough. With nothing else in
the zone the score of a reading at the threshold is exactly `30` (`alert_below_watch`).
-/

namespace RiskPipeline

open Py Scheduler RiskFormula

/-! ## The verdict -/

section
variable {R Uuid : Type} [Field R] [LinearOrder R] {T : Text R Uuid} {zoneId : Uuid}
  {simTime : Instant}

theorem validateReading_ok {reading : Counterfactual.CounterfactualReading R} :
    Counterfactual.validateReading T reading = .ok () ↔
      0 < reading.alarmThreshold ∧ 0 ≤ reading.value := by
  unfold Counterfactual.validateReading
  by_cases h1 : reading.alarmThreshold ≤ 0
  · simp [h1, not_lt.2 h1]
  · by_cases h2 : reading.value < 0
    · simp [h1, h2, not_le.2 h2]
    · simp [h1, h2, not_le.1 h1, not_lt.1 h2]

/-- A verdict on one reading. -/
theorem evaluate_one {reading : Counterfactual.CounterfactualReading R}
    {verdict : Counterfactual.CounterfactualResult R Uuid}
    (h : Counterfactual.evaluate T zoneId simTime [reading] = .ok verdict) :
    0 < reading.alarmThreshold ∧ 0 ≤ reading.value ∧
      (verdict.alert = true ↔ reading.alarmThreshold ≤ reading.value) := by
  obtain ⟨⟨⟩, hall, h⟩ := Except.bind_eq_ok.1 h
  cases h
  obtain ⟨⟨⟩, hvalid, -⟩ := Except.bind_eq_ok.1 hall
  obtain ⟨h1, h2⟩ := validateReading_ok.1 hvalid
  refine ⟨h1, h2, ?_⟩
  by_cases ha : reading.alarmThreshold ≤ reading.value <;>
    simp [Counterfactual.calculateSensorAlert, ha]

theorem evaluate_one_total {reading : Counterfactual.CounterfactualReading R}
    (ht : 0 < reading.alarmThreshold) (hv : reading.alarmThreshold ≤ reading.value) :
    ∃ verdict, Counterfactual.evaluate T zoneId simTime [reading] = .ok verdict ∧
      verdict.alert = true := by
  have hvalid : Counterfactual.validateReading T reading = .ok () :=
    validateReading_ok.2 ⟨ht, ht.le.trans hv⟩
  have h : ∃ verdict, Counterfactual.evaluate T zoneId simTime [reading] = .ok verdict :=
    Except.bind_total ⟨(), Except.bind_eq_ok.2 ⟨(), hvalid, rfl⟩⟩ fun _ _ => ⟨_, rfl⟩
  obtain ⟨verdict, h⟩ := h
  exact ⟨verdict, h, (evaluate_one h).2.2.2 hv⟩

end

/-! ## The score -/

section
variable {R Uuid : Type} [Field R] [LinearOrder R] [IsStrictOrderedRing R]

theorem baseScore_four (g e p w : AgentResult R) :
    baseScore fusionConfig (fun n => (four g e p w n).risk) =
      0.4 * g.risk + 0.3 * p.risk + 0.2 * w.risk + 0.1 * e.risk := by
  simp [baseScore, fusionConfig, FusionConfig.default, four]
  ring

/-- The compound score of four risks. -/
theorem compound_four (g e p w : AgentResult R) :
    compound fusionConfig (fun n => (four g e p w n).risk) =
      min 100 ((0.4 * g.risk + 0.3 * p.risk + 0.2 * w.risk + 0.1 * e.risk) *
        (1 + 0.4 * (([g.risk, p.risk, w.risk, e.risk].countP (40 ≤ ·) - 1 : Nat) : R))) := by
  have hcount : activeCount fusionConfig (fun n => (four g e p w n).risk) =
      [g.risk, p.risk, w.risk, e.risk].countP (40 ≤ ·) := by
    simp [activeCount, fusionConfig, FusionConfig.default, four, List.countP_cons]
  rw [compound, multiplier, baseScore_four, hcount]
  rfl

/-- With the gas risk at `75` or more, when the score reaches the watch threshold. -/
theorem watch_iff {g e p w : AgentResult R} (hg : 75 ≤ g.risk) (he : 0 ≤ e.risk) (hp : 0 ≤ p.risk)
    (hw : 0 ≤ w.risk) :
    40 ≤ compound fusionConfig (fun n => (four g e p w n).risk) ↔
      40 ≤ e.risk ∨ 40 ≤ p.risk ∨ 40 ≤ w.risk ∨
        40 ≤ 0.4 * g.risk + 0.3 * p.risk + 0.2 * w.risk + 0.1 * e.risk := by
  have hg40 : (40 : R) ≤ g.risk := by linarith
  have h100 : (40 : R) ≤ 100 := by norm_num
  rw [compound_four, le_min_iff, List.countP_cons_of_pos (by simpa using hg40), Nat.add_sub_cancel]
  simp only [h100, true_and]
  by_cases hothers : 40 ≤ e.risk ∨ 40 ≤ p.risk ∨ 40 ≤ w.risk
  · -- a second active agent: the sum is at least 34, the multiplier at least 1.4
    have hcount : 1 ≤ [p.risk, w.risk, e.risk].countP (40 ≤ ·) := by
      rw [Nat.one_le_iff_ne_zero, ← Nat.pos_iff_ne_zero, List.countP_pos_iff]
      rcases hothers with h | h | h
      · exact ⟨e.risk, by simp, by simpa using h⟩
      · exact ⟨p.risk, by simp, by simpa using h⟩
      · exact ⟨w.risk, by simp, by simpa using h⟩
    have hmult : (1.4 : R) ≤ 1 + 0.4 * (([p.risk, w.risk, e.risk].countP (40 ≤ ·) : Nat) : R) := by
      have : (1 : R) ≤ (([p.risk, w.risk, e.risk].countP (40 ≤ ·) : Nat) : R) := by
        exact_mod_cast hcount
      linarith
    have hsum : (34 : R) ≤ 0.4 * g.risk + 0.3 * p.risk + 0.2 * w.risk + 0.1 * e.risk := by
      rcases hothers with h | h | h <;> linarith
    have hprod := mul_le_mul hsum hmult (by norm_num) (by linarith)
    refine iff_of_true (le_trans (by norm_num) hprod) ?_
    tauto
  · -- the multiplier is 1
    rw [not_or, not_or] at hothers
    obtain ⟨h1, h2, h3⟩ := hothers
    have hcount : [p.risk, w.risk, e.risk].countP (40 ≤ ·) = 0 := by
      simp [h1, h2, h3]
    rw [hcount]
    simp [h1, h2, h3]

variable {M : Math R} {T : Text R Uuid} {k : Contexts R Uuid} {zoneId : Uuid} {simTime : Instant}
  {tickId : Nat}

theorem watch_le_rawBand (score : R) :
    Tier.watch.rank ≤ (Tiering.determineRawBand score tieringConfig).rank ↔ 40 ≤ score := by
  have h1 : (40 : R) ≤ 65 := by norm_num
  have h2 : (65 : R) ≤ 85 := by norm_num
  unfold Tiering.determineRawBand tieringConfig Tiering.TieringConfig.default
  dsimp only
  split_ifs with h85 h65 h40
  · exact iff_of_true (by decide) (h1.trans (h2.trans h85))
  · exact iff_of_true (by decide) (h1.trans h65)
  · exact iff_of_true (by decide) h40
  · exact iff_of_false (by decide) h40

/-- A fresh reading at or above the threshold has risk `75` or more. -/
theorem readingRisk_fresh (hexp : M.exp (-(2 * M.ln2)) = 1 / 4) {latest : GasReading R}
    {threshold floor : R} (ht : 0 < threshold) (hv : threshold ≤ latest.value)
    (hfresh : latest.timestamp = simTime) :
    75 ≤ GasRisk.readingRisk M latest threshold floor simTime (GasRisk.GasRiskConfig.default M) := by
  have hratio : 1 ≤ latest.value / threshold := (one_le_div ht).2 hv
  have hmono : M.saturate 100 (2 * M.ln2) 1 ≤ M.saturate 100 (2 * M.ln2) (latest.value / threshold) :=
    Exponential.saturate_mono (by norm_num) (mul_nonneg zero_le_two M.ln2_pos.le) hratio
  have hone : M.saturate 100 (2 * M.ln2) 1 = 75 := by
    rw [Exponential.saturate, mul_one, hexp]
    norm_num
  rw [GasRisk.readingRisk_fresh hfresh, ← hone]
  exact hmono

/-- A counted worker is at risk `75` or more once the gas risk is at the watch threshold. -/
theorem workerRisk_counted (hexp : M.exp (-(2 * M.ln2)) = 1 / 4) {n : Nat} (hn : 0 < n) {g : R}
    (hg : 40 ≤ g) : 75 ≤ WorkerExposure.calculateRisk M n
      (WorkerExposure.calculateTierWeight g (WorkerExposure.WorkerExposureConfig.default M))
      (WorkerExposure.WorkerExposureConfig.default M) := by
  have hweight : 1 ≤ WorkerExposure.calculateTierWeight g
      (WorkerExposure.WorkerExposureConfig.default M) := by
    unfold WorkerExposure.calculateTierWeight WorkerExposure.WorkerExposureConfig.default
    dsimp only
    split_ifs <;> linarith
  have hone : WorkerExposure.calculateRisk M 1 1 (WorkerExposure.WorkerExposureConfig.default M) =
      75 := by
    simp only [WorkerExposure.calculateRisk, WorkerExposure.WorkerExposureConfig.default,
      Nat.cast_one, mul_one, Exponential.saturate]
    rw [if_neg (by norm_num), hexp]
    norm_num
  rw [← hone]
  exact WorkerExposure.calculateRisk_mono hn hweight zero_le_one

/-- The levels before Worker Exposure. -/
abbrev beforeWorkers (M : Math R) : List (ExecutionLevel R Uuid) :=
  [⟨[GasRisk.agent M, EquipmentStatus.agent M]⟩, ⟨[PermitIntelligence.agent]⟩]

/-- The results of a tick whose naive alarm trips on a fresh latest reading. -/
theorem alert_results (hexp : M.exp (-(2 * M.ln2)) = 1 / 4) {latest : GasReading R} {threshold : R}
    (hthreshold : k.gasRisk.alarmThreshold = some threshold)
    (hlatest : (k.gasRisk.readings.getD []).getLast? = some latest)
    (hfresh : latest.timestamp = simTime) (ht : 0 < threshold) (hv : threshold ≤ latest.value)
    {cache cache' : AgentCache R}
    (hcache : ∀ name r, cache.lastKnownResults name = some r → 0 ≤ r.risk) {results : Results R}
    (h : (k.call M zoneId simTime tickId).run M (schedulerConfig M) cache = .ok (results, cache')) :
    ∃ g e p w, FourResults results g e p w ∧ 75 ≤ g.risk ∧ 0 ≤ e.risk ∧ 0 ≤ p.risk ∧ 0 ≤ w.risk ∧
      ((∀ seen, 0 < WorkerExposure.headcount (WorkerExposure.WorkerExposureConfig.default M)
        (k.workerExposure seen)) → 75 ≤ w.risk) := by
  obtain ⟨g, e, p, w, hfour⟩ := run_fourResults rfl k.call_built h
  have hs := runLevels_ok executionPlan_nodup k.call_built h
  -- a substituted result has the risk of its cache entry
  have hnonneg : ∀ {o : Result (AgentResult R)} {name : String} {r s : AgentResult R},
      Settled M simTime (schedulerConfig M) o (cache.lastKnownResults name) r s →
        (∀ x, o = .ok x → 0 ≤ x.risk) → 0 ≤ r.risk := by
    intro o name r s hset ho
    rcases hset.own_or_cached with h | ⟨c, hc, rfl⟩
    · exact ho r h
    · exact hcache name c hc
  obtain ⟨g', _, hg, -, hgset⟩ := hs.settled [] _ _ rfl (GasRisk.agent M) (by simp)
  obtain ⟨e', _, he, -, heset⟩ := hs.settled [] _ _ rfl (EquipmentStatus.agent M) (by simp)
  obtain ⟨p', _, hp, -, hpset⟩ := hs.settled [_] _ _ rfl PermitIntelligence.agent (by simp)
  obtain ⟨w', _, hw, -, hwset⟩ := hs.settled [_, _] _ _ rfl (WorkerExposure.agent M) (by simp)
  cases hfour.gas.symm.trans hg
  cases hfour.equipment.symm.trans he
  cases hfour.permits.symm.trans hp
  cases hfour.workers.symm.trans hw
  have hgas : 75 ≤ g.risk := by
    obtain ⟨x, hx⟩ : ∃ x, GasRisk.evaluate M (GasRisk.GasRiskConfig.default M)
        ⟨zoneId, simTime, tickId, visible [] (fun _ => none) results, k.gasRisk⟩ = .ok x :=
      GasRisk.evaluate_total hthreshold ht.ne' (by simp [GasRisk.GasRiskConfig.default])
    have hown : (k.call M zoneId simTime tickId).outcome (visible [] (fun _ => none) results)
      (GasRisk.agent M) = .ok x := hx
    rw [hown] at hgset
    cases hgset
    obtain ⟨t, ht', hrisk, -, -⟩ := GasRisk.evaluate_ok hx
    cases hthreshold.symm.trans ht'
    rcases GasRisk.calculateRisk_ok.1 hrisk with ⟨hn, -⟩ | ⟨l, hl, -, hr⟩
    · rw [hlatest] at hn
      cases hn
    · cases hlatest.symm.trans hl
      exact hr ▸ readingRisk_fresh hexp ht hv hfresh
  have hworkers : ∃ seen : Results R, seen "gas_risk" = some g ∧
      WorkerExposure.evaluate M (WorkerExposure.WorkerExposureConfig.default M)
        ⟨zoneId, simTime, tickId, seen, k.workerExposure seen⟩ = .ok w := by
    let seen : Results R := visible (beforeWorkers M : List (ExecutionLevel R Uuid)) (fun _ => none)
      results
    have hseen : seen "gas_risk" = some g := by
      change visible _ _ _ _ = _
      rw [visible, if_pos (by simp [GasRisk.agent])]
      exact hfour.gas
    obtain ⟨x, hx⟩ : ∃ x, WorkerExposure.evaluate M (WorkerExposure.WorkerExposureConfig.default M)
        ⟨zoneId, simTime, tickId, seen, k.workerExposure seen⟩ = .ok x :=
      WorkerExposure.evaluate_total hseen
    have hown : (k.call M zoneId simTime tickId).outcome seen (WorkerExposure.agent M) = .ok x := hx
    change Settled M _ _ ((k.call M zoneId simTime tickId).outcome seen _) _ w _ at hwset
    rw [hown] at hwset
    cases hwset
    exact ⟨seen, hseen, hx⟩
  refine ⟨g, e, p, w, hfour, hgas, hnonneg heset fun x hx => ?_, hnonneg hpset fun x hx => ?_, ?_,
    fun hcount => ?_⟩
  · change EquipmentStatus.evaluate M _ ⟨zoneId, simTime, tickId, _, k.equipmentStatus⟩ = .ok x at hx
    exact (EquipmentStatus.evaluate_inRange hx).risk_nonneg
  · change PermitIntelligence.evaluate _ ⟨zoneId, simTime, tickId, _, k.permitIntelligence⟩ = .ok x
      at hx
    obtain ⟨_, -, hrisk, -⟩ := PermitIntelligence.evaluate_ok hx
    exact hrisk ▸ (PermitIntelligence.riskOfRank_range _).1
  · obtain ⟨seen, -, hx⟩ := hworkers
    exact (WorkerExposure.evaluate_inRange hx).risk_nonneg
  · obtain ⟨seen, hg', hx⟩ := hworkers
    obtain ⟨g', hg'', hrisk, -⟩ := WorkerExposure.evaluate_ok hx
    cases hg'.symm.trans hg''
    exact hrisk ▸ workerRisk_counted hexp (hcount seen) (by linarith)

/-- **The engine against the naive alarm.** -/
theorem alert_compound (M : Math R) (T : Text R Uuid) (hexp : M.exp (-(2 * M.ln2)) = 1 / 4)
    (k : Contexts R Uuid) (zoneId : Uuid) (simTime : Instant) (tickId : Nat)
    {latest : GasReading R} {threshold : R} (hthreshold : k.gasRisk.alarmThreshold = some threshold)
    (hlatest : (k.gasRisk.readings.getD []).getLast? = some latest)
    (hfresh : latest.timestamp = simTime) (sensorId : String)
    {verdict : Counterfactual.CounterfactualResult R Uuid}
    (hverdict : Counterfactual.evaluate T zoneId simTime [⟨sensorId, latest.value, threshold⟩] =
      .ok verdict) (halert : verdict.alert = true) {cache cache' : AgentCache R}
    (hcache : ∀ name r, cache.lastKnownResults name = some r → 0 ≤ r.risk) {results : Results R}
    (h : (k.call M zoneId simTime tickId).run M (schedulerConfig M) cache = .ok (results, cache')) :
    ∃ g e p w f, FourResults results g e p w ∧
      fuse zoneId simTime results fusionConfig = .ok f ∧ 30 ≤ f.compoundRiskScore ∧
      (Tier.watch.rank ≤ (Tiering.determineRawBand f.compoundRiskScore tieringConfig).rank ↔
        40 ≤ e.risk ∨ 40 ≤ p.risk ∨ 40 ≤ w.risk ∨
          40 ≤ 0.4 * g.risk + 0.3 * p.risk + 0.2 * w.risk + 0.1 * e.risk) ∧
      ((∀ seen, 0 < WorkerExposure.headcount (WorkerExposure.WorkerExposureConfig.default M)
        (k.workerExposure seen)) →
          Tier.watch.rank ≤ (Tiering.determineRawBand f.compoundRiskScore tieringConfig).rank) := by
  obtain ⟨ht, -, hiff⟩ := evaluate_one hverdict
  obtain ⟨g, e, p, w, hfour, hg, he, hp, hw, hcounted⟩ :=
    alert_results hexp hthreshold hlatest hfresh ht (hiff.1 halert) hcache h
  obtain ⟨f, hf, hfused⟩ := hfour.fuse zoneId simTime
  have hband := watch_le_rawBand f.compoundRiskScore
  have hwatch := watch_iff hg he hp hw
  rw [← hfused.score] at hwatch
  refine ⟨g, e, p, w, f, hfour, hf, ?_, hband.trans hwatch, fun hcount => hband.2 (hwatch.2 ?_)⟩
  · rw [hfused.score, compound, le_min_iff]
    have hbase : (30 : R) ≤ baseScore fusionConfig fun n => (four g e p w n).risk := by
      rw [baseScore_four]
      linarith
    refine ⟨by norm_num, hbase.trans (le_mul_of_one_le_right (by linarith)
      (one_le_multiplier default_nonneg))⟩
  · have := hcounted hcount
    exact .inr (.inr (.inl (by linarith)))

end

/-! ## A reading at the threshold and nothing else -/

/-- The naive alarm trips on a reading of 10 against a threshold of 10. -/
theorem alert_at_threshold (zoneId : ℕ) : ∃ verdict,
    Counterfactual.evaluate (Text.plain fun _ : ℝ => "") zoneId 0 [⟨"sensor", 10, 10⟩] =
      .ok verdict ∧ verdict.alert = true :=
  evaluate_one_total (by norm_num) le_rfl

/-- The compound score of the reading. -/
theorem alert_compound_quiet : ∃ results g e p w f, FourResults results g e p w ∧
    fuse 0 0 results (fusionConfig : FusionConfig ℝ) = .ok f ∧ 30 ≤ f.compoundRiskScore := by
  obtain ⟨results, cache', h, -⟩ := quietContexts_total (M := Math.real) (10 : ℝ) {}
  obtain ⟨verdict, hverdict, halert⟩ := alert_at_threshold 0
  obtain ⟨g, e, p, w, f, hfour, hf, hscore, -⟩ := alert_compound Math.real _ real_exp_neg_two_ln2
    (quietContexts 10) 0 0 0 rfl rfl rfl "sensor" hverdict halert (by rintro _ _ ⟨⟩) h
  exact ⟨results, g, e, p, w, f, hfour, hf, hscore⟩

/-- The alarm trips and the score is `30`, below the watch threshold. -/
theorem alert_below_watch : ∃ (verdict : Counterfactual.CounterfactualResult ℝ ℕ)
    (results : Results ℝ) (cache' : AgentCache ℝ) (f : FusionResult ℝ ℕ),
    Counterfactual.evaluate (Text.plain fun _ : ℝ => "") 0 0 [⟨"sensor", 10, 10⟩] = .ok verdict ∧
      verdict.alert = true ∧
      ((quietContexts 10).call Math.real 0 0 0).run Math.real (schedulerConfig Math.real) {} =
        .ok (results, cache') ∧
      fuse 0 0 results fusionConfig = .ok f ∧ f.compoundRiskScore = 30 ∧
      Tiering.determineRawBand f.compoundRiskScore tieringConfig = .normal := by
  obtain ⟨verdict, hverdict, halert⟩ := alert_at_threshold 0
  obtain ⟨results, cache', h, hs⟩ := quietContexts_total (M := Math.real) (10 : ℝ) {}
  obtain ⟨g, e, p, w, hev⟩ := run_evaluated h hs
  obtain ⟨f, hf, hfused⟩ := hev.four.fuse 0 0
  obtain ⟨hg, he, hp, hw⟩ := quietContexts_risks hev
  have hscore : f.compoundRiskScore = 30 := by
    have h75 : Math.real.saturate 100 (2 * Math.real.ln2) (10 / 10) = 75 := by
      rw [Exponential.saturate, div_self (by norm_num), mul_one, real_exp_neg_two_ln2]
      norm_num
    rw [hfused.score, compound_four, hg, he, hp, hw, h75]
    norm_num
  refine ⟨verdict, results, cache', f, hverdict, halert, h, hf, hscore, ?_⟩
  rw [hscore]
  norm_num [Tiering.determineRawBand, tieringConfig, Tiering.TieringConfig.default]

end RiskPipeline
