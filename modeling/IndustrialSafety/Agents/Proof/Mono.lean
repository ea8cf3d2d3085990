import IndustrialSafety.Agents.Proof.Range

/-!
# Risks grow with the hazard

Each agent's risk under its default configuration is monotone in its context and in the gas risk it
reads (`GasRisk.evaluate_mono`, `EquipmentStatus.evaluate_mono`, `WorkerExposure.evaluate_mono`,
`PermitIntelligence.evaluate_mono`). `Worse` is the order on contexts: a higher latest reading, more
degraded equipment, more workers, more or worse permits, more or worse adjacent zones.
-/

open Py

variable {R Uuid : Type} [Field R] [LinearOrder R] [IsStrictOrderedRing R] {M : Math R}
  {input input' : AgentInput R Uuid} {r r' : AgentResult R}

namespace GasRisk

/-- The same readings but for a latest value that is at least as high. -/
structure Worse (context context' : AgentContext R Uuid) : Prop where
  timestamps : (context.readings.getD []).map GasReading.timestamp =
    (context'.readings.getD []).map GasReading.timestamp
  latest : ∀ l l', (context.readings.getD []).getLast? = some l →
    (context'.readings.getD []).getLast? = some l' → l.value ≤ l'.value
  threshold : context.alarmThreshold = context'.alarmThreshold
  floor : context.elevatedFloorOverride = context'.elevatedFloorOverride

theorem readingRisk_mono {l l' : GasReading R} {threshold floor : R} {simTime : Instant}
    (ht : 0 < threshold) (htime : l.timestamp = l'.timestamp) (hv : l.value ≤ l'.value) :
    readingRisk M l threshold floor simTime (GasRiskConfig.default M) ≤
      readingRisk M l' threshold floor simTime (GasRiskConfig.default M) := by
  have hraw : M.saturate 100 (GasRiskConfig.default M).steepnessK (l.value / threshold) ≤
      M.saturate 100 (GasRiskConfig.default M).steepnessK (l'.value / threshold) :=
    Exponential.saturate_mono (by norm_num) (steepness_nonneg M)
      (div_le_div_of_nonneg_right hv ht.le)
  unfold readingRisk
  rw [htime]
  dsimp only
  split
  · exact hraw
  · exact relax_mono (M.decay_pos _ _).le hraw

theorem evaluate_mono (hw : Worse input.context input'.context)
    (ht : ∀ t, input.context.alarmThreshold = some t → 0 < t)
    (h : evaluate M (GasRiskConfig.default M) input = .ok r)
    (h' : evaluate M (GasRiskConfig.default M) input' = .ok r') (hs : input.simTime = input'.simTime) :
    r.risk ≤ r'.risk := by
  obtain ⟨t, hthr, hrisk, -, -⟩ := evaluate_ok h
  obtain ⟨t', hthr', hrisk', -, -⟩ := evaluate_ok h'
  cases (hw.threshold.symm.trans hthr).symm.trans hthr'
  have hfloor : floorOf (GasRiskConfig.default M) input.context =
      floorOf (GasRiskConfig.default M) input'.context := by unfold floorOf; rw [hw.floor]
  rw [← hs, ← hfloor] at hrisk'
  -- both histories are empty, or their latest readings have the same time
  have htimes : (input.context.readings.getD []).getLast?.map GasReading.timestamp =
      (input'.context.readings.getD []).getLast?.map GasReading.timestamp := by
    rw [← List.getLast?_map, ← List.getLast?_map, hw.timestamps]
  rcases calculateRisk_ok.1 hrisk with ⟨hn, hr⟩ | ⟨l, hl, -, hr⟩ <;>
    rcases calculateRisk_ok.1 hrisk' with ⟨hn', hr'⟩ | ⟨l', hl', -, hr'⟩
  · rw [hr, hr']
  · simp [hn, hl'] at htimes
  · simp [hl, hn'] at htimes
  · rw [hl, hl'] at htimes
    rw [hr, hr']
    exact readingRisk_mono (ht t hthr) (by simpa using htimes) (hw.latest l l' hl hl')

end GasRisk

namespace EquipmentStatus

/-- The same equipment types, with more records degraded. -/
def Worse (context context' : AgentContext R Uuid) : Prop :=
  List.Forall₂ (fun e e' => e.equipmentType = e'.equipmentType ∧
    (isDegraded e = .ok true → isDegraded e' = .ok true))
    (context.equipment.getD []) (context'.equipment.getD [])

theorem equipmentTypes_eq {equipment equipment' : List EquipmentRecord}
    (h : List.Forall₂ (fun e e' => e.equipmentType = e'.equipmentType ∧
      (isDegraded e = .ok true → isDegraded e' = .ok true)) equipment equipment') :
    equipmentTypes equipment = equipmentTypes equipment' := by
  unfold equipmentTypes
  congr 1
  induction h with
  | nil => rfl
  | cons h _ ih => rw [List.map_cons, List.map_cons, h.1, ih]

theorem calculateRisk_mono {d d' n : Nat} (h : d ≤ d') :
    calculateRisk M d n (EquipmentStatusConfig.default M) ≤
      calculateRisk M d' n (EquipmentStatusConfig.default M) := by
  have hk : 0 ≤ (EquipmentStatusConfig.default M).steepnessK := mul_nonneg zero_le_two M.ln2_pos.le
  unfold calculateRisk
  by_cases h0 : n = 0 ∨ d = 0
  · rw [if_pos h0]
    split
    · exact le_rfl
    · exact Exponential.saturate_nonneg (by norm_num) hk (by positivity)
  · rw [if_neg h0, if_neg (by omega)]
    refine Exponential.saturate_mono (by norm_num) hk ?_
    have : (d : R) ≤ (d' : R) := by exact_mod_cast h
    exact div_le_div_of_nonneg_right this (Nat.cast_nonneg n)

theorem evaluate_mono (hw : Worse input.context input'.context)
    (h : evaluate M (EquipmentStatusConfig.default M) input = .ok r)
    (h' : evaluate M (EquipmentStatusConfig.default M) input' = .ok r') : r.risk ≤ r'.risk := by
  obtain ⟨groups, hg, hrisk, -, -⟩ := evaluate_ok h
  obtain ⟨groups', hg', hrisk', -, -⟩ := evaluate_ok h'
  rw [hrisk, hrisk', equipmentTypes_eq hw]
  refine calculateRisk_mono (Finset.card_le_card fun t ht => ?_)
  obtain ⟨e, he, hdeg, htype⟩ := (mem_calculateDegradedGroups hg t).1 ht
  -- the record at the same place
  have hplace : ∀ {xs ys : List EquipmentRecord}, List.Forall₂ (fun e e' =>
      e.equipmentType = e'.equipmentType ∧ (isDegraded e = .ok true → isDegraded e' = .ok true))
      xs ys → e ∈ xs → ∃ e' ∈ ys, isDegraded e' = .ok true ∧ e'.equipmentType = t := by
    intro xs ys hxy he
    induction hxy with
    | nil => cases he
    | cons hab _ ih =>
      rcases List.mem_cons.1 he with rfl | he
      · exact ⟨_, by simp, hab.2 hdeg, hab.1 ▸ htype⟩
      · obtain ⟨e', he', h⟩ := ih he
        exact ⟨e', by simp [he'], h⟩
  exact (mem_calculateDegradedGroups hg' t).2 (hplace hw he)

end EquipmentStatus

namespace WorkerExposure

/-- The same feed, with more workers. -/
def Worse (context context' : AgentContext R Uuid) : Prop :=
  match context.workersPresent, context'.workersPresent with
  | none, none => True
  | some workers, some workers' => workers.Sublist workers'
  | _, _ => False

omit [Field R] [LinearOrder R] [IsStrictOrderedRing R] in
theorem headcount_mono {context context' : AgentContext R Uuid} (h : Worse context context')
    (config : WorkerExposureConfig R) : headcount config context ≤ headcount config context' := by
  unfold Worse at h
  unfold headcount
  split at h
  · rename_i h1 h2
    rw [h1, h2]
  · rename_i h1 h2
    rw [h1, h2]
    exact h.length_le
  · cases h

theorem calculateTierWeight_mono {g g' : R} (h : g ≤ g') :
    calculateTierWeight g (WorkerExposureConfig.default M) ≤
      calculateTierWeight g' (WorkerExposureConfig.default M) := by
  unfold calculateTierWeight WorkerExposureConfig.default
  dsimp only
  split_ifs <;> linarith

theorem calculateTierWeight_nonneg (g : R) :
    0 ≤ calculateTierWeight g (WorkerExposureConfig.default M) := by
  unfold calculateTierWeight WorkerExposureConfig.default
  dsimp only
  split_ifs <;> norm_num

theorem calculateRisk_mono {n n' : Nat} {w w' : R} (hn : n ≤ n') (hw : w ≤ w') (h0 : 0 ≤ w) :
    calculateRisk M n w (WorkerExposureConfig.default M) ≤
      calculateRisk M n' w' (WorkerExposureConfig.default M) := by
  have hk : 0 ≤ (WorkerExposureConfig.default M).steepnessK := mul_nonneg zero_le_two M.ln2_pos.le
  have hcast : (n : R) ≤ (n' : R) := by exact_mod_cast hn
  have hprod : (n : R) * w ≤ n' * w' := mul_le_mul hcast hw h0 (Nat.cast_nonneg n')
  by_cases hpos : (n : R) * w ≤ 0
  · rw [calculateRisk, if_pos hpos]
    exact (calculateRisk_range n' w').1
  · rw [calculateRisk, calculateRisk, if_neg hpos, if_neg (by linarith)]
    exact Exponential.saturate_mono (by norm_num) hk hprod

theorem evaluate_mono (hw : Worse input.context input'.context)
    (hg : ∀ g g', input.upstreamResults "gas_risk" = some g →
      input'.upstreamResults "gas_risk" = some g' → g.risk ≤ g'.risk)
    (h : evaluate M (WorkerExposureConfig.default M) input = .ok r)
    (h' : evaluate M (WorkerExposureConfig.default M) input' = .ok r') : r.risk ≤ r'.risk := by
  obtain ⟨g, hgas, hrisk, -, -⟩ := evaluate_ok h
  obtain ⟨g', hgas', hrisk', -, -⟩ := evaluate_ok h'
  rw [hrisk, hrisk']
  exact calculateRisk_mono (headcount_mono hw _)
    (calculateTierWeight_mono (hg g g' hgas hgas')) (calculateTierWeight_nonneg g.risk)

end WorkerExposure

namespace PermitIntelligence

/-- A permit of the same type, with a status at least as severe and a baseline no higher. -/
structure PermitWorse (p p' : PermitRecord R Uuid) : Prop where
  permitType : p.permitType = p'.permitType
  status : p.status.rank ≤ p'.status.rank
  baseline : p'.baseline.gasRiskAtIssuance ≤ p.baseline.gasRiskAtIssuance

/-- A zone with a score at least as high and at least the permit types. -/
structure ZoneWorse (z z' : AdjacentZoneStatus R Uuid) : Prop where
  gasRiskScore : z.gasRiskScore ≤ z'.gasRiskScore
  activePermitTypes : z.activePermitTypes ⊆ z'.activePermitTypes

structure Worse (context context' : AgentContext R Uuid) : Prop where
  feedStale : context.permitFeedStale = context'.permitFeedStale
  permits : List.SublistForall₂ PermitWorse (openPermits context) (openPermits context')
  adjacentZones : List.SublistForall₂ ZoneWorse (context.adjacentZones.getD [])
    (context'.adjacentZones.getD [])

omit [IsStrictOrderedRing R] in
theorem Conflicting.mono {zones zones' : List (AdjacentZoneStatus R Uuid)}
    (hz : List.SublistForall₂ ZoneWorse zones zones') {permitType : String}
    (h : Conflicting zones permitType) : Conflicting zones' permitType := by
  induction hz with
  | nil =>
    obtain ⟨z, hz, -⟩ := h
    cases hz
  | cons hw _ ih =>
    obtain ⟨z, hz, hscore, t, ht, hpair⟩ := h
    rcases List.mem_cons.1 hz with rfl | hz
    · exact ⟨_, by simp, hscore.trans hw.gasRiskScore, t, hw.activePermitTypes ht, hpair⟩
    · obtain ⟨z', hz', h⟩ := ih ⟨z, hz, hscore, t, ht, hpair⟩
      exact ⟨z', by simp [hz'], h⟩
  | cons_right _ ih =>
    obtain ⟨z', hz', h⟩ := ih h
    exact ⟨z', by simp [hz'], h⟩

theorem permitRank_mono {stale : Bool} {g g' : R} {zones zones' : List (AdjacentZoneStatus R Uuid)}
    {p p' : PermitRecord R Uuid} (hg : g ≤ g') (hz : List.SublistForall₂ ZoneWorse zones zones')
    (hp : PermitWorse p p') : permitRank stale g zones p ≤ permitRank stale g' zones' p' := by
  unfold permitRank
  refine max_le_max hp.status ?_
  cases stale with
  | true => simp
  | false =>
    have hconf : Conflicting zones p'.permitType → Conflicting zones' p'.permitType :=
      Conflicting.mono hz
    rw [hp.permitType]
    have hbase := hp.baseline
    split_ifs <;> first | omega | (exfalso; first | exact absurd (hconf ‹_›) ‹_› | linarith)

theorem le_foldl_max (n : Nat) (l : List Nat) : n ≤ l.foldl max n := by
  induction l generalizing n with
  | nil => exact le_rfl
  | cons m l ih => exact (le_max_left n m).trans (ih (max n m))

theorem foldl_max_mono {α : Type} {rel : α → α → Prop} {f f' : α → Nat} {xs ys : List α}
    (h : List.SublistForall₂ rel xs ys) (hf : ∀ x y, rel x y → f x ≤ f' y) {n n' : Nat}
    (hn : n ≤ n') : (xs.map f).foldl max n ≤ (ys.map f').foldl max n' := by
  induction h generalizing n n' with
  | nil => exact hn.trans (le_foldl_max n' _)
  | cons hxy _ ih => exact ih (max_le_max hn (hf _ _ hxy))
  | cons_right _ ih => exact ih (hn.trans (le_max_left _ _))

theorem evaluate_mono (hw : Worse input.context input'.context)
    (hg : ∀ g g', input.upstreamResults "gas_risk" = some g →
      input'.upstreamResults "gas_risk" = some g' → g.risk ≤ g'.risk)
    (h : evaluate PermitReasoningConfig.default input = .ok r)
    (h' : evaluate PermitReasoningConfig.default input' = .ok r') : r.risk ≤ r'.risk := by
  obtain ⟨g, hgas, hrisk, -⟩ := evaluate_ok h
  obtain ⟨g', hgas', hrisk', -⟩ := evaluate_ok h'
  rw [hrisk, hrisk']
  refine riskOfRank_mono (foldl_max_mono hw.permits (fun p p' hp => ?_) le_rfl)
  rw [← hw.feedStale]
  exact permitRank_mono (hg g g' hgas hgas') hw.adjacentZones hp

end PermitIntelligence
