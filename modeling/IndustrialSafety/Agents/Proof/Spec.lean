import IndustrialSafety.Agents.GasRisk
import IndustrialSafety.Agents.EquipmentStatus
import IndustrialSafety.Agents.WorkerExposure
import IndustrialSafety.Agents.PermitIntelligence

/-!
# What the agents return

One lemma per agent: the risk and the confidence of a result its `evaluate` returns, as functions of
the context (`GasRisk.evaluate_ok`, `EquipmentStatus.evaluate_ok`, `WorkerExposure.evaluate_ok`,
`PermitIntelligence.evaluate_ok`). For Permit Intelligence, `decidePermit_ok` gives the rank of a
recommendation under the default policy.
-/

open Py

variable {R Uuid : Type} [Field R] [LinearOrder R] {M : Math R} {input : AgentInput R Uuid}
  {r : AgentResult R}

omit [Field R] [LinearOrder R] in
theorem Results.get_ok {results : Results R} {name : String} {a : AgentResult R} :
    results.get name = .ok a ↔ results name = some a := by
  unfold Results.get
  cases results name <;> simp

/-! ## Gas Risk -/

namespace GasRisk

/-- The risk of a latest reading. -/
def readingRisk (M : Math R) (latest : GasReading R) (alarmThreshold elevatedFloor : R)
    (simTime : Instant) (config : GasRiskConfig R) : R :=
  let rawRisk := M.saturate 100 config.steepnessK (latest.value / alarmThreshold)
  let deltaMinutes : R := minutes (simTime - latest.timestamp)
  if deltaMinutes ≤ 0 then rawRisk
  else relax elevatedFloor rawRisk (M.decay config.decayLambda deltaMinutes)

/-- A fresh reading does not decay. -/
theorem readingRisk_fresh [IsStrictOrderedRing R] {latest : GasReading R}
    {alarmThreshold elevatedFloor : R} {simTime : Instant} {config : GasRiskConfig R}
    (h : latest.timestamp = simTime) :
    readingRisk M latest alarmThreshold elevatedFloor simTime config =
      M.saturate 100 config.steepnessK (latest.value / alarmThreshold) := by
  rw [readingRisk, h, sub_self]
  exact if_pos (minutes_nonpos le_rfl)

theorem calculateRisk_ok {readings : List (GasReading R)} {alarmThreshold elevatedFloor risk : R}
    {simTime : Instant} {config : GasRiskConfig R} :
    calculateRisk M readings alarmThreshold elevatedFloor simTime config = .ok risk ↔
      (readings.getLast? = none ∧ risk = elevatedFloor) ∨
        ∃ latest, readings.getLast? = some latest ∧ alarmThreshold ≠ 0 ∧
          risk = readingRisk M latest alarmThreshold elevatedFloor simTime config := by
  unfold calculateRisk readingRisk div
  cases readings.getLast? with
  | none => simp [eq_comm]
  | some latest =>
    by_cases h0 : alarmThreshold = 0
    · simp [h0]
    · simp only [h0, beq_iff_eq, ↓reduceIte, Except.pure_eq_ok, Except.ok_bind, reduceCtorEq,
        false_and, Option.some.injEq, ne_eq, not_false_eq_true, true_and, exists_eq_left', false_or]
      split <;> simp [eq_comm]

/-- The floor of a context. -/
def floorOf (config : GasRiskConfig R) (context : AgentContext R Uuid) : R :=
  context.elevatedFloorOverride.getD config.defaultElevatedFloor

theorem evaluate_ok {config : GasRiskConfig R} (h : evaluate M config input = .ok r) :
    ∃ alarmThreshold, input.context.alarmThreshold = some alarmThreshold ∧
      calculateRisk M (input.context.readings.getD []) alarmThreshold
        (floorOf config input.context) input.simTime config = .ok r.risk ∧
      r.confidence = calculateConfidence M (input.context.readings.getD [])
        input.context.lastCalibratedAt input.simTime config ∧ r.computedAt = input.simTime := by
  obtain ⟨alarmThreshold, ht, h⟩ := Except.bind_eq_ok.1 h
  obtain ⟨risk, hr, h⟩ := Except.bind_eq_ok.1 h
  obtain ⟨timeToThreshold, -, h⟩ := Except.bind_eq_ok.1 h
  obtain ⟨justification, -, h⟩ := Except.bind_eq_ok.1 h
  cases h
  refine ⟨alarmThreshold, ?_, hr, rfl, rfl⟩
  unfold extractRequiredFloat at ht
  split at ht
  · cases ht
    assumption
  · cases ht

section
variable {readings : List (GasReading R)} {alarmThreshold elevatedFloor : R} {simTime : Instant}
  {config : GasRiskConfig R}

theorem calculateRisk_total (h0 : alarmThreshold ≠ 0) :
    ∃ x, calculateRisk M readings alarmThreshold elevatedFloor simTime config = .ok x := by
  cases hl : readings.getLast? with
  | none => exact ⟨_, calculateRisk_ok.2 (.inl ⟨hl, rfl⟩)⟩
  | some latest => exact ⟨_, calculateRisk_ok.2 (.inr ⟨latest, hl, h0, rfl⟩)⟩

theorem calculateTimeToThreshold_total (hmin : 0 < config.minReadingsForRegression) :
    ∃ x, calculateTimeToThreshold readings alarmThreshold config = .ok x := by
  unfold calculateTimeToThreshold
  cases readings with
  | nil => exact ⟨_, by simp [hmin]; rfl⟩
  | cons x xs =>
    rw [List.head?_cons, List.getLast?_cons]
    dsimp only
    repeat' split
    all_goals exact ⟨_, rfl⟩

theorem buildJustification_total (h0 : alarmThreshold ≠ 0) {lastCalibratedAt : Option Instant}
    {timeToThreshold : Option R} : ∃ x, buildJustification readings alarmThreshold elevatedFloor
      lastCalibratedAt simTime timeToThreshold config = .ok x := by
  unfold buildJustification div
  cases readings.getLast? with
  | none => exact ⟨_, rfl⟩
  | some latest => exact ⟨_, by simp [h0]; rfl⟩

/-- With a non-zero threshold the agent never raises. -/
theorem evaluate_total (ht : input.context.alarmThreshold = some alarmThreshold)
    (h0 : alarmThreshold ≠ 0) (hmin : 0 < config.minReadingsForRegression) :
    ∃ r, evaluate M config input = .ok r := by
  have hthreshold : extractRequiredFloat input.context.alarmThreshold "alarm_threshold" =
      .ok alarmThreshold := by rw [ht]; rfl
  refine Except.bind_total ⟨_, hthreshold⟩ fun t ht' => ?_
  cases hthreshold.symm.trans ht'
  exact Except.bind_total (calculateRisk_total h0) fun _ _ =>
    Except.bind_total (calculateTimeToThreshold_total hmin) fun _ _ =>
      Except.bind_total (buildJustification_total h0) fun _ _ => ⟨_, rfl⟩

/-- The agent returns whenever the risk can be computed, with that risk. -/
theorem evaluate_of_risk (ht : input.context.alarmThreshold = some alarmThreshold)
    (hmin : 0 < config.minReadingsForRegression) {risk : R}
    (hr : calculateRisk M (input.context.readings.getD []) alarmThreshold
      (floorOf config input.context) input.simTime config = .ok risk) :
    ∃ r, evaluate M config input = .ok r ∧ r.risk = risk ∧
      r.confidence = calculateConfidence M (input.context.readings.getD [])
        input.context.lastCalibratedAt input.simTime config := by
  have hthreshold : extractRequiredFloat input.context.alarmThreshold "alarm_threshold" =
      .ok alarmThreshold := by rw [ht]; rfl
  have htotal : ∃ r, evaluate M config input = .ok r := by
    refine Except.bind_total ⟨_, hthreshold⟩ fun t ht' => ?_
    cases hthreshold.symm.trans ht'
    refine Except.bind_total ⟨risk, hr⟩ fun _ _ =>
      Except.bind_total (calculateTimeToThreshold_total hmin) fun _ _ =>
        Except.bind_total ?_ fun _ _ => ⟨_, rfl⟩
    rcases calculateRisk_ok.1 hr with ⟨hnone, -⟩ | ⟨latest, -, h0, -⟩
    · unfold buildJustification
      rw [hnone]
      exact ⟨_, rfl⟩
    · exact buildJustification_total h0
  obtain ⟨r, h⟩ := htotal
  obtain ⟨t, ht', hrisk, hconfidence, -⟩ := evaluate_ok h
  cases ht.symm.trans ht'
  exact ⟨r, h, Except.ok.inj (hrisk.symm.trans hr), hconfidence⟩

/-- Of the readings the risk only depends on the last. -/
theorem calculateRisk_congr {readings' : List (GasReading R)}
    (h : readings'.getLast? = readings.getLast?) :
    calculateRisk M readings' alarmThreshold elevatedFloor simTime config =
      calculateRisk M readings alarmThreshold elevatedFloor simTime config := by
  unfold calculateRisk
  rw [h]

/-- Of the readings the confidence only depends on the last, and on whether there are enough. -/
theorem calculateConfidence_congr {readings' : List (GasReading R)} {lastCalibratedAt : Option Instant}
    (h : readings'.getLast? = readings.getLast?)
    (hmin : config.minReadingsForRegression ≤ readings'.length ↔
      config.minReadingsForRegression ≤ readings.length) :
    calculateConfidence M readings' lastCalibratedAt simTime config =
      calculateConfidence M readings lastCalibratedAt simTime config := by
  unfold calculateConfidence
  simp only [h, hmin]

end

end GasRisk

/-! ## Equipment Status -/

namespace EquipmentStatus

theorem mem_calculateDegradedGroups {equipment : List EquipmentRecord} {groups : Finset String}
    (h : calculateDegradedGroups equipment = .ok groups) (t : String) :
    t ∈ groups ↔ ∃ e ∈ equipment, isDegraded e = .ok true ∧ e.equipmentType = t := by
  induction equipment generalizing groups with
  | nil =>
    cases h
    simp
  | cons e es ih =>
    obtain ⟨degraded, hd, h⟩ := Except.bind_eq_ok.1 h
    obtain ⟨groups', hg, h⟩ := Except.bind_eq_ok.1 h
    cases h
    cases degraded <;> simp [hd, ih hg, eq_comm]

theorem evaluate_ok {config : EquipmentStatusConfig R} (h : evaluate M config input = .ok r) :
    ∃ groups, calculateDegradedGroups (input.context.equipment.getD []) = .ok groups ∧
      r.risk = calculateRisk M groups.card
        (equipmentTypes (input.context.equipment.getD [])).card config ∧
      r.confidence = calculateConfidence input.context.equipment.isSome config ∧
      r.computedAt = input.simTime := by
  obtain ⟨groups, hg, h⟩ := Except.bind_eq_ok.1 h
  cases h
  exact ⟨groups, hg, rfl, rfl, rfl⟩

end EquipmentStatus

/-! ## Worker Exposure -/

namespace WorkerExposure

/-- The headcount of a context. -/
def headcount (config : WorkerExposureConfig R) (context : AgentContext R Uuid) : Nat :=
  match context.workersPresent with
  | some workers => workers.length
  | none => config.failSafeAssumedHeadcount

theorem evaluate_ok {config : WorkerExposureConfig R} (h : evaluate M config input = .ok r) :
    ∃ gasRisk, input.upstreamResults "gas_risk" = some gasRisk ∧
      r.risk = calculateRisk M (headcount config input.context)
        (calculateTierWeight gasRisk.risk config) config ∧
      r.confidence = calculateConfidence input.context.workersPresent.isSome config ∧
      r.computedAt = input.simTime := by
  obtain ⟨gasRisk, hg, h⟩ := Except.bind_eq_ok.1 h
  cases h
  refine ⟨gasRisk, Results.get_ok.1 hg, ?_, rfl, rfl⟩
  unfold headcount
  cases input.context.workersPresent <;> rfl

theorem evaluate_total {config : WorkerExposureConfig R} {gasRisk : AgentResult R}
    (hg : input.upstreamResults "gas_risk" = some gasRisk) :
    ∃ r, evaluate M config input = .ok r :=
  Except.bind_total ⟨gasRisk, Results.get_ok.2 hg⟩ fun _ _ => ⟨_, rfl⟩

end WorkerExposure

/-! ## Permit Intelligence -/

/-- The severity of an open permit's status. -/
def PermitStatus.rank : PermitStatus → Nat
  | .active => 0
  | .flagged => 1
  | .suspendRecommended => 2
  | .closed => 3

namespace PermitIntelligence

omit [LinearOrder R] in
theorem severity_default {status : PermitStatus} (h : status ≠ .closed) :
    severity (PermitReasoningConfig.default : PermitReasoningConfig R) status = .ok status.rank := by
  cases status <;> first | rfl | exact absurd rfl h

omit [LinearOrder R] in
theorem mostSevere_default {best : PermitStatus} {candidates : List PermitStatus}
    (hb : best ≠ .closed) (hc : ∀ c ∈ candidates, c ≠ .closed) :
    ∃ s, mostSevere (PermitReasoningConfig.default : PermitReasoningConfig R) best candidates =
      .ok s ∧ s ≠ .closed ∧
        s.rank = candidates.foldl (fun n c => max n c.rank) best.rank := by
  induction candidates generalizing best with
  | nil => exact ⟨best, by rw [mostSevere, severity_default hb]; rfl, hb, rfl⟩
  | cons c cs ih =>
    have hc' := hc c (by simp)
    have hnext : (if best.rank < c.rank then c else best) ≠ .closed := by split <;> assumption
    obtain ⟨s, hs, hopen, hrank⟩ := ih hnext fun x hx => hc x (by simp [hx])
    refine ⟨s, ?_, hopen, ?_⟩
    · rw [mostSevere, severity_default hb, severity_default hc']
      exact hs
    · rw [hrank, List.foldl_cons]
      congr 1
      split <;> omega

/-- The severity the default policy's findings ask for. -/
def findingRank (baselineAssessment : Option (BaselineDeltaAssessment R))
    (simopsConflicts : Multiset (SimopsConflict R Uuid)) : Nat :=
  match baselineAssessment with
  | none => 1
  | some a => if simopsConflicts.card ≠ 0 then 2 else if a.exceeded then 1 else 0

omit [LinearOrder R] in
theorem determineRecommendedStatus_default {status : PermitStatus} (h : status ≠ .closed)
    (baselineAssessment : Option (BaselineDeltaAssessment R))
    (simopsConflicts : Multiset (SimopsConflict R Uuid)) :
    ∃ s, determineRecommendedStatus status baselineAssessment simopsConflicts
      PermitReasoningConfig.default = .ok s ∧ s ≠ .closed ∧
        s.rank = max status.rank (findingRank baselineAssessment simopsConflicts) := by
  unfold determineRecommendedStatus findingRank
  cases baselineAssessment with
  | none => exact mostSevere_default h (by simp [PermitReasoningConfig.default])
  | some a =>
    dsimp only
    generalize hcs : (if a.exceeded then _ else _ : List PermitStatus) ++ _ = candidates
    have hopen : ∀ c ∈ candidates, c ≠ .closed := by
      subst hcs
      by_cases h1 : a.exceeded <;> by_cases h2 : simopsConflicts.card ≠ 0 <;>
        simp [h1, h2, PermitReasoningConfig.default]
    obtain ⟨s, hs, hs', hrank⟩ := mostSevere_default (R := R) h hopen
    refine ⟨s, hs, hs', hrank.trans ?_⟩
    subst hcs
    by_cases h1 : a.exceeded <;> by_cases h2 : simopsConflicts.card ≠ 0 <;>
      simp [h1, h2, PermitStatus.rank, PermitReasoningConfig.default]

/-- `p` conflicts with an adjacent zone that is at or above the threshold. -/
def Conflicting (adjacentZones : List (AdjacentZoneStatus R Uuid)) (permitType : String) : Prop :=
  ∃ z ∈ adjacentZones, 65 ≤ z.gasRiskScore ∧
    ∃ t ∈ z.activePermitTypes, ({permitType, t} : Finset String) = {"hot_work", "confined_space"}

theorem card_detectSimopsConflicts {adjacentZones : List (AdjacentZoneStatus R Uuid)}
    {permitType : String} :
    (detectSimopsConflicts permitType adjacentZones PermitReasoningConfig.default).card ≠ 0 ↔
      Conflicting adjacentZones permitType := by
  have hzone : ∀ z : AdjacentZoneStatus R Uuid,
      (zoneConflicts permitType PermitReasoningConfig.default z).card ≠ 0 ↔ 65 ≤ z.gasRiskScore ∧
        ∃ t ∈ z.activePermitTypes,
          ({permitType, t} : Finset String) = {"hot_work", "confined_space"} := by
    intro z
    unfold zoneConflicts
    by_cases hz : z.gasRiskScore < 65
    · simp [PermitReasoningConfig.default, hz]
    · simp [PermitReasoningConfig.default, hz, not_lt.1 hz, isIncompatiblePair]
  unfold detectSimopsConflicts Conflicting
  induction adjacentZones with
  | nil => simp
  | cons z zs ih =>
    rw [List.map_cons, List.sum_cons, Multiset.card_add, List.exists_mem_cons_iff]
    refine Iff.trans ?_ (or_congr (hzone z) ih)
    omega

open Classical in
/-- The severity of the recommendation for an open permit under the default policy. -/
noncomputable def permitRank (feedStale : Bool) (liveGasRisk : R)
    (adjacentZones : List (AdjacentZoneStatus R Uuid)) (permit : PermitRecord R Uuid) : Nat :=
  max permit.status.rank <|
    if feedStale then 1
    else if Conflicting adjacentZones permit.permitType then 2
    else if 20 < liveGasRisk - permit.baseline.gasRiskAtIssuance then 1
    else 0

/-- A decision for an open permit. -/
structure Decided (feedStale : Bool) (liveGasRisk : R)
    (adjacentZones : List (AdjacentZoneStatus R Uuid)) (permit : PermitRecord R Uuid)
    (d : PermitDecision R Uuid) : Prop where
  identifier : d.permitIdentifier = permit.identifier
  previous : d.previousStatus = permit.status
  isOpen : d.recommendedStatus ≠ .closed
  rank : d.recommendedStatus.rank = permitRank feedStale liveGasRisk adjacentZones permit

theorem decidePermit_default {permit : PermitRecord R Uuid} (h : permit.status ≠ .closed)
    (feedStale : Bool) (liveGasRisk : R) (adjacentZones : List (AdjacentZoneStatus R Uuid)) :
    ∃ d, decidePermit feedStale liveGasRisk adjacentZones PermitReasoningConfig.default permit =
      .ok d ∧ Decided feedStale liveGasRisk adjacentZones permit d := by
  unfold decidePermit
  cases feedStale with
  | true =>
    obtain ⟨s, hs, hopen, hrank⟩ := determineRecommendedStatus_default h none
      (0 : Multiset (SimopsConflict R Uuid))
    refine ⟨buildPermitDecision permit s none 0, ?_, rfl, rfl, hopen, hrank⟩
    simp only [↓reduceIte, hs, Except.ok_bind, Except.pure_eq_ok]
  | false =>
    obtain ⟨s, hs, hopen, hrank⟩ := determineRecommendedStatus_default h
      (some (assessBaselineDelta permit.baseline liveGasRisk PermitReasoningConfig.default))
      (detectSimopsConflicts permit.permitType adjacentZones PermitReasoningConfig.default)
    refine ⟨_, by simp only [Bool.false_eq_true, ↓reduceIte, hs, Except.ok_bind]; rfl, rfl, rfl,
      hopen, hrank.trans ?_⟩
    unfold permitRank findingRank
    by_cases hc : Conflicting adjacentZones permit.permitType
    · rw [if_neg (by simp), if_pos hc]
      dsimp only
      rw [if_pos (card_detectSimopsConflicts.2 hc)]
    · rw [if_neg (by simp), if_neg hc]
      dsimp only
      rw [if_neg (mt card_detectSimopsConflicts.1 hc)]
      by_cases hd : 20 < liveGasRisk - permit.baseline.gasRiskAtIssuance <;>
        simp [assessBaselineDelta, PermitReasoningConfig.default, hd]

/-- The default risk of a severity. -/
def riskOfRank : Nat → R
  | 0 => 0
  | 1 => 65
  | _ => 90

theorem riskOfRank_mono [IsStrictOrderedRing R] : Monotone (riskOfRank : Nat → R) := by
  have h1 : (0 : R) ≤ 65 := by norm_num
  have h2 : (65 : R) ≤ 90 := by norm_num
  refine monotone_nat_of_le_succ fun n => ?_
  match n with
  | 0 => exact h1
  | 1 => exact h2
  | _ + 2 => exact le_rfl

/-- The worst risk is the risk of the worst severity. -/
theorem max_riskOfRank [IsStrictOrderedRing R] (ranks : List Nat) :
    (ranks.map riskOfRank).max?.getD (0 : R) = riskOfRank (ranks.foldl max 0) := by
  cases ranks with
  | nil => rfl
  | cons n ns =>
    rw [List.map_cons, List.max?_cons', Option.getD_some, List.foldl_cons, Nat.zero_max]
    induction ns generalizing n with
    | nil => rfl
    | cons m ns ih =>
      rw [List.map_cons, List.foldl_cons, List.foldl_cons, ← riskOfRank_mono.map_max]
      exact ih (max n m)

omit [LinearOrder R] in
theorem calculateRisk_default {status : PermitStatus} (h : status ≠ .closed) :
    calculateRisk status (PermitReasoningConfig.default : PermitReasoningConfig R) =
      .ok (riskOfRank status.rank) := by
  cases status <;> first | rfl | exact absurd rfl h

/-- The risks of the decisions. -/
theorem risks_eq {feedStale : Bool} {liveGasRisk : R}
    {adjacentZones : List (AdjacentZoneStatus R Uuid)} {permits : List (PermitRecord R Uuid)}
    {decisions : List (PermitDecision R Uuid)} {risks : List R}
    (hd : List.Forall₂ (Decided feedStale liveGasRisk adjacentZones) permits decisions)
    (hr : List.Forall₂ (fun d x => calculateRisk d.recommendedStatus PermitReasoningConfig.default =
      .ok x) decisions risks) :
    risks = (permits.map (permitRank feedStale liveGasRisk adjacentZones)).map riskOfRank := by
  induction hd generalizing risks with
  | nil =>
    cases hr
    rfl
  | cons hpd _ ih =>
    obtain _ | ⟨hx, hxs⟩ := hr
    rw [calculateRisk_default hpd.isOpen, hpd.rank] at hx
    cases hx
    rw [List.map_cons, List.map_cons, ← ih hxs]

/-- The open permits of a context. -/
def openPermits (context : AgentContext R Uuid) : List (PermitRecord R Uuid) :=
  (context.permits.getD []).filter (·.status ≠ .closed)

/-- The severities of the recommendations for a context's open permits. -/
noncomputable def permitRanks (gasRisk : AgentResult R) (context : AgentContext R Uuid) : List Nat :=
  (openPermits context).map
    (permitRank (context.permitFeedStale.getD false) gasRisk.risk (context.adjacentZones.getD []))

theorem decided_open {feedStale : Bool} {liveGasRisk : R}
    {adjacentZones : List (AdjacentZoneStatus R Uuid)} {permits : List (PermitRecord R Uuid)}
    {decisions : List (PermitDecision R Uuid)}
    (h : List.Forall₂ (Decided feedStale liveGasRisk adjacentZones) permits decisions) :
    ∀ d ∈ decisions, d.recommendedStatus ≠ .closed := by
  induction h with
  | nil => exact nofun
  | cons hpd _ ih => exact List.forall_mem_cons.2 ⟨hpd.isOpen, ih⟩

theorem mapM_decidePermit {permits : List (PermitRecord R Uuid)} {feedStale : Bool} {liveGasRisk : R}
    {adjacentZones : List (AdjacentZoneStatus R Uuid)} {decisions : List (PermitDecision R Uuid)}
    (h : (permits.filter (·.status ≠ .closed)).mapM (decidePermit feedStale liveGasRisk adjacentZones
      PermitReasoningConfig.default) = .ok decisions) :
    List.Forall₂ (Decided feedStale liveGasRisk adjacentZones)
      (permits.filter (·.status ≠ .closed)) decisions := by
  have hopen : ∀ p ∈ permits.filter (·.status ≠ .closed), p.status ≠ .closed := fun p hp => by
    simpa using (List.mem_filter.1 hp).2
  refine ((List.forall₂_and_left _ _).2 ⟨hopen, Except.mapM_eq_ok.1 h⟩).imp fun p d hd => ?_
  obtain ⟨d', hd', hdec⟩ := decidePermit_default hd.1 feedStale liveGasRisk adjacentZones
  cases hd.2.symm.trans hd'
  exact hdec

theorem evaluate_ok [IsStrictOrderedRing R]
    (h : evaluate PermitReasoningConfig.default input = .ok r) :
    ∃ gasRisk, input.upstreamResults "gas_risk" = some gasRisk ∧
      r.risk = riskOfRank ((permitRanks gasRisk input.context).foldl max 0) ∧
      r.confidence = calculateConfidence gasRisk.confidence input.context.adjacentZones.isSome
        PermitReasoningConfig.default ∧
      r.computedAt = input.simTime ∧
      ∃ decisions, r.justification.evidence.decisions = decisions.map PermitDecision.evidence ∧
        List.Forall₂ (Decided (input.context.permitFeedStale.getD false) gasRisk.risk
          (input.context.adjacentZones.getD [])) (openPermits input.context) decisions := by
  obtain ⟨gasRisk, hg, h⟩ := Except.bind_eq_ok.1 h
  obtain ⟨decisions, hd, h⟩ := Except.bind_eq_ok.1 h
  obtain ⟨risks, hr, h⟩ := Except.bind_eq_ok.1 h
  cases h
  have hdecided := mapM_decidePermit hd
  have hrisks := risks_eq hdecided (Except.mapM_eq_ok.1 hr)
  exact ⟨gasRisk, Results.get_ok.1 hg, by rw [← max_riskOfRank, hrisks]; rfl, rfl, rfl,
    decisions, rfl, hdecided⟩

/-- With a gas risk the agent never raises. -/
theorem evaluate_total {gasRisk : AgentResult R}
    (hg : input.upstreamResults "gas_risk" = some gasRisk) :
    ∃ r, evaluate PermitReasoningConfig.default input = .ok r := by
  refine Except.bind_total ⟨gasRisk, Results.get_ok.2 hg⟩ fun g _ =>
    Except.bind_total (Except.mapM_total fun p hp => ?_) fun decisions hd =>
      Except.bind_total (Except.mapM_total fun d hd' => ?_) fun _ _ => ⟨_, rfl⟩
  · have hp : p.status ≠ .closed := by simpa using (List.mem_filter.1 hp).2
    obtain ⟨d, hd, -⟩ := decidePermit_default hp (input.context.permitFeedStale.getD false) g.risk
      (input.context.adjacentZones.getD [])
    exact ⟨d, hd⟩
  · exact ⟨_, calculateRisk_default (decided_open (mapM_decidePermit hd) d hd')⟩

end PermitIntelligence
