import IndustrialSafety.Agents.Proof.Alike
import IndustrialSafety.Agents.Proof.Spec

/-!
# Permit Intelligence under the default policy

* `PermitIntelligence.evaluate_fresh`: what the agent decides on a fresh feed, for the permits and the
  adjacent zones in any order.
* `PermitIntelligence.evaluate_stale`: the same permits on a stale feed. The stale finding stands in for
  the other two, so a permit with a SIMOPS conflict is no longer recommended for suspension.
-/

open Py List

theorem List.max?_isGreatest {α : Type} [LinearOrder α] {l : List α} (h : l ≠ []) (default : α) :
    IsGreatest {x | x ∈ l} (l.max?.getD default) := by
  cases hmax : l.max? with
  | none => exact absurd (List.max?_eq_none_iff.1 hmax) h
  | some a => exact List.max?_eq_some_iff.1 hmax

variable {R Uuid : Type} [Field R] [LinearOrder R] {input : AgentInput R Uuid} {r : AgentResult R}

namespace PermitIntelligence

variable {liveGasRisk : R} {adjacentZones adjacentZones' : List (AdjacentZoneStatus R Uuid)}

/-! ## Decisions -/

/-- The statuses that are up for a permit: its own and those its findings ask for. -/
inductive Candidate (liveGasRisk : R) (adjacentZones : List (AdjacentZoneStatus R Uuid))
    (permit : PermitRecord R Uuid) : PermitStatus → Prop
  | previous : Candidate liveGasRisk adjacentZones permit permit.status
  | baselineBreach (h : 20 < liveGasRisk - permit.baseline.gasRiskAtIssuance) :
    Candidate liveGasRisk adjacentZones permit .flagged
  | simopsConflict (h : Conflicting adjacentZones permit.permitType) :
    Candidate liveGasRisk adjacentZones permit .suspendRecommended

/-- The entry of a permit on a fresh feed: the most severe candidate. -/
structure Recommended (liveGasRisk : R) (adjacentZones : List (AdjacentZoneStatus R Uuid))
    (permit : PermitRecord R Uuid) (e : DecisionEvidence R) : Prop where
  identifier : e.permitIdentifier = permit.identifier
  previous : e.previousStatus = permit.status
  delta : e.baselineDelta = some (liveGasRisk - permit.baseline.gasRiskAtIssuance)
  candidate : Candidate liveGasRisk adjacentZones permit e.recommendedStatus
  mostSevere : ∀ s, Candidate liveGasRisk adjacentZones permit s → s.rank ≤ e.recommendedStatus.rank

theorem rank_injective : Function.Injective PermitStatus.rank := by
  intro s t h
  cases s <;> cases t <;> first | rfl | cases h

/-- A status of the rank of the findings is the most severe candidate. -/
theorem candidate_of_rank {permit : PermitRecord R Uuid} {s : PermitStatus}
    (h : s.rank = permitRank false liveGasRisk adjacentZones permit) :
    Candidate liveGasRisk adjacentZones permit s ∧
      ∀ c, Candidate liveGasRisk adjacentZones permit c → c.rank ≤ s.rank := by
  unfold permitRank at h
  rw [if_neg (by simp)] at h
  have hmost : ∀ c, Candidate liveGasRisk adjacentZones permit c → c.rank ≤ s.rank := by
    rintro c (_ | hbreach | hconflict)
    · omega
    · split at h <;> rw [h] <;> simp [PermitStatus.rank]
    · rw [h, if_pos hconflict]
      exact le_max_right _ _
  refine ⟨?_, hmost⟩
  rcases max_choice permit.status.rank _ with hmax | hmax <;> rw [hmax] at h
  · rw [rank_injective h]
    exact .previous
  · split at h
    case isTrue hconflict =>
      rw [rank_injective (h.trans (show 2 = PermitStatus.suspendRecommended.rank from rfl))]
      exact .simopsConflict hconflict
    case isFalse =>
      split at h
      case isTrue hbreach =>
        rw [rank_injective (h.trans (show 1 = PermitStatus.flagged.rank from rfl))]
        exact .baselineBreach hbreach
      case isFalse =>
        have := hmost _ .previous
        rw [rank_injective (show s.rank = permit.status.rank by omega)]
        exact .previous

omit [Field R] in
theorem detectSimopsConflicts_perm (h : adjacentZones' ~ adjacentZones) (permitType : String)
    (config : PermitReasoningConfig R) : detectSimopsConflicts permitType adjacentZones' config =
      detectSimopsConflicts permitType adjacentZones config :=
  (h.map _).sum_eq

theorem decidePermit_perm (h : adjacentZones' ~ adjacentZones) (feedStale : Bool)
    (config : PermitReasoningConfig R) : decidePermit feedStale liveGasRisk adjacentZones' config =
      decidePermit feedStale liveGasRisk adjacentZones config := by
  funext permit
  unfold decidePermit
  rw [detectSimopsConflicts_perm h]

theorem Recommended.of_decided {permit : PermitRecord R Uuid} {d : PermitDecision R Uuid}
    (h : decidePermit false liveGasRisk adjacentZones PermitReasoningConfig.default permit = .ok d)
    (hdecided : Decided false liveGasRisk adjacentZones permit d) :
    Recommended liveGasRisk adjacentZones permit d.evidence := by
  obtain ⟨hcandidate, hmost⟩ := candidate_of_rank hdecided.rank
  refine ⟨hdecided.identifier, hdecided.previous, ?_, hcandidate, hmost⟩
  obtain ⟨s, -, hs⟩ := Except.bind_eq_ok.1 (h :)
  cases hs
  rfl

/-! ## Runs -/

/-- The entry of each open permit. -/
def Entries (feedStale : Bool) (liveGasRisk : R) (adjacentZones : List (AdjacentZoneStatus R Uuid))
    (entry : PermitRecord R Uuid → DecisionEvidence R) : Prop :=
  ∀ p, p.status ≠ .closed → ∃ d, decidePermit feedStale liveGasRisk adjacentZones
    PermitReasoningConfig.default p = .ok d ∧ Decided feedStale liveGasRisk adjacentZones p d ∧
      d.evidence = entry p

theorem exists_entries (feedStale : Bool) (liveGasRisk : R)
    (adjacentZones : List (AdjacentZoneStatus R Uuid)) :
    ∃ entry, Entries feedStale liveGasRisk adjacentZones entry := by
  have hentry : ∀ p : PermitRecord R Uuid, ∃ e : DecisionEvidence R, p.status ≠ .closed →
      ∃ d, decidePermit feedStale liveGasRisk adjacentZones PermitReasoningConfig.default p = .ok d ∧
        Decided feedStale liveGasRisk adjacentZones p d ∧ d.evidence = e := by
    intro p
    by_cases hopen : p.status = .closed
    · exact ⟨⟨"", .active, .active, none, 0⟩, fun h => absurd hopen h⟩
    · obtain ⟨d, hd, hdecided⟩ := decidePermit_default hopen feedStale liveGasRisk adjacentZones
      exact ⟨d.evidence, fun _ => ⟨d, hd, hdecided, rfl⟩⟩
  choose entry hentry using hentry
  exact ⟨entry, hentry⟩

/-- The risk of the worst recommendation. -/
noncomputable def worstRisk (feedStale : Bool) (liveGasRisk : R)
    (adjacentZones : List (AdjacentZoneStatus R Uuid)) (permits : List (PermitRecord R Uuid)) : R :=
  ((permits.map (permitRank feedStale liveGasRisk adjacentZones)).map riskOfRank).max?.getD 0

/-- A run with the zones in any order: the decisions, their entries and the risk. -/
theorem evaluate_entries {gasRisk : AgentResult R} {feedStale : Bool}
    {entry : PermitRecord R Uuid → DecisionEvidence R}
    (hentry : Entries feedStale gasRisk.risk adjacentZones entry)
    (hg : input.upstreamResults "gas_risk" = some gasRisk)
    (hfeed : input.context.permitFeedStale.getD false = feedStale)
    (hzones : input.context.adjacentZones.getD [] ~ adjacentZones) :
    ∃ r decisions, evaluate PermitReasoningConfig.default input = .ok r ∧
      r.justification = buildJustification decisions feedStale gasRisk.confidence
        input.context.adjacentZones.isSome PermitReasoningConfig.default ∧
      List.Forall₂ (Decided feedStale gasRisk.risk adjacentZones) (openPermits input.context) decisions ∧
      decisions.map PermitDecision.evidence = (openPermits input.context).map entry ∧
      r.risk = worstRisk feedStale gasRisk.risk adjacentZones (openPermits input.context) := by
  obtain ⟨r, hr⟩ := evaluate_total hg
  obtain ⟨gasRisk', hg', h⟩ := Except.bind_eq_ok.1 hr
  obtain ⟨decisions, hd, h⟩ := Except.bind_eq_ok.1 h
  obtain ⟨risks, hrisks, h⟩ := Except.bind_eq_ok.1 h
  cases h
  cases hg.symm.trans (Results.get_ok.1 hg')
  rw [hfeed, decidePermit_perm hzones] at hd
  have hdecided := mapM_decidePermit hd
  obtain rfl := risks_eq hdecided (Except.mapM_eq_ok.1 hrisks)
  refine ⟨_, decisions, hr, by rw [hfeed], hdecided, ?_, rfl⟩
  have hopen : ∀ p ∈ openPermits input.context, p.status ≠ .closed := fun p hp => by
    simpa using (List.mem_filter.1 hp).2
  rw [eq_comm, ← List.forall₂_eq_eq_eq, List.forall₂_map_left_iff, List.forall₂_map_right_iff]
  refine ((List.forall₂_and_left _ _).2 ⟨hopen, Except.mapM_eq_ok.1 hd⟩).imp fun p d hpd => ?_
  obtain ⟨d', hd', -, he⟩ := hentry p hpd.1
  cases hpd.2.symm.trans hd'
  exact he.symm

omit [LinearOrder R] in
theorem defaultRiskByStatus_eq {s : PermitStatus} (h : s ≠ .closed) :
    defaultRiskByStatus s = some (riskOfRank s.rank : R) := by
  cases s <;> first | rfl | exact absurd rfl h

/-- The entries' risks are those of the decisions they were made of. -/
theorem mem_risks {permits : List (PermitRecord R Uuid)} {decisions : List (PermitDecision R Uuid)}
    {feedStale : Bool} (h : List.Forall₂ (Decided feedStale liveGasRisk adjacentZones) permits decisions)
    {x : R} : x ∈ (permits.map (permitRank feedStale liveGasRisk adjacentZones)).map riskOfRank ↔
      ∃ e ∈ decisions.map PermitDecision.evidence, defaultRiskByStatus e.recommendedStatus = some x := by
  induction h with
  | nil => simp
  | @cons p d ps ds hpd _ ih =>
    have hrisk : defaultRiskByStatus d.evidence.recommendedStatus =
        some (riskOfRank (permitRank feedStale liveGasRisk adjacentZones p) : R) := by
      rw [← hpd.rank]
      exact defaultRiskByStatus_eq hpd.isOpen
    rw [List.map_cons, List.map_cons, List.mem_cons, ih, List.map_cons, List.exists_mem_cons_iff, hrisk,
      Option.some.injEq, eq_comm]

omit [Field R] [LinearOrder R] in
/-- On a fresh feed the rule is about the decisions. -/
theorem buildJustification_escalated {decisions : List (PermitDecision R Uuid)}
    {gasRiskConfidence : R} {adjacentZonesProvided : Bool} {config : PermitReasoningConfig R} :
    (buildJustification decisions false gasRiskConfidence adjacentZonesProvided config).rulesFired =
        ["permit_status_escalated"] ↔
      ∃ d ∈ decisions, d.recommendedStatus ≠ d.previousStatus := by
  unfold buildJustification
  cases decisions with
  | nil => simp
  | cons d ds =>
    by_cases hany : (d :: ds).any fun d => d.recommendedStatus ≠ d.previousStatus
    · simp only [Bool.false_eq_true, ↓reduceIte, List.isEmpty_cons, hany]
      simpa using hany
    · simp only [Bool.false_eq_true, ↓reduceIte, List.isEmpty_cons, hany]
      simpa using hany

/-- **Permit Intelligence end to end**, on a fresh feed under the default policy: one entry per open
permit in input order, each recommending the most severe candidate; the risk is the worst of the
recommendations'; and neither depends on the order of the permits or of the adjacent zones. -/
theorem evaluate_fresh (gasRisk : AgentResult R) (permits : List (PermitRecord R Uuid))
    (adjacentZones : List (AdjacentZoneStatus R Uuid)) :
    ∃ (entry : PermitRecord R Uuid → DecisionEvidence R) (risk : R),
      (∀ p ∈ permits, p.status ≠ .closed → Recommended gasRisk.risk adjacentZones p (entry p)) ∧
      ∀ input : AgentInput R Uuid, input.upstreamResults "gas_risk" = some gasRisk →
        input.context.permitFeedStale.getD false = false →
        input.context.permits.getD [] ~ permits →
        input.context.adjacentZones.getD [] ~ adjacentZones →
        ∃ r, evaluate PermitReasoningConfig.default input = .ok r ∧ r.risk = risk ∧
          r.justification.evidence.decisions =
            ((input.context.permits.getD []).filter (·.status ≠ .closed)).map entry ∧
          (r.justification.evidence.decisions = [] → r.risk = 0) ∧
          (r.justification.evidence.decisions ≠ [] → IsGreatest {x | ∃ e ∈
            r.justification.evidence.decisions, defaultRiskByStatus e.recommendedStatus = some x} r.risk) ∧
          (r.justification.rulesFired = ["permit_status_escalated"] ↔
            ∃ e ∈ r.justification.evidence.decisions, e.recommendedStatus ≠ e.previousStatus) := by
  obtain ⟨entry, hentry⟩ := exists_entries false gasRisk.risk adjacentZones
  refine ⟨entry, worstRisk false gasRisk.risk adjacentZones (permits.filter (·.status ≠ .closed)),
    fun p _ hp => ?_, fun input hg hfeed hpermits hzones => ?_⟩
  · obtain ⟨d, hd, hdecided, he⟩ := hentry p hp
    exact he ▸ .of_decided hd hdecided
  obtain ⟨r, decisions, hr, hjust, hdecided, hentries, hrisk⟩ := evaluate_entries hentry hg hfeed hzones
  have hevidence : r.justification.evidence.decisions = decisions.map PermitDecision.evidence := by
    rw [hjust]
    rfl
  refine ⟨r, hr, ?_, hevidence.trans hentries, fun hnil => ?_, fun hne => ?_, ?_⟩
  · rw [hrisk, worstRisk, worstRisk]
    congr 1
    exact (((hpermits.filter _).map _).map _).max?_eq
  · rw [hevidence, List.map_eq_nil_iff] at hnil
    rw [hnil, List.forall₂_nil_right_iff] at hdecided
    rw [hrisk, hdecided]
    rfl
  · rw [hrisk, hevidence]
    simp only [← mem_risks hdecided]
    refine List.max?_isGreatest (fun hnil => hne ?_) 0
    rw [hevidence, hentries, List.map_eq_nil_iff]
    exact List.map_eq_nil_iff.1 (List.map_eq_nil_iff.1 hnil)
  · rw [hevidence, hjust, buildJustification_escalated]
    simp only [List.mem_map, exists_exists_and_eq_and]
    rfl

/-- An active hot-work permit next to a confined space in a zone at 70. -/
def hotWorkInput : AgentInput ℚ ℕ where
  zoneId := 1
  simTime := 0
  tickId := 0
  upstreamResults name :=
    if name = "gas_risk" then
      some ⟨"gas_risk", 30, 1, ⟨[], .lastKnown 0 0 1⟩, 0, 1⟩
    else none
  context :=
    { permits := some [⟨"HW-1", "hot_work", 1, .active, ⟨1, 1, 20, 1, ⟨0, 0⟩⟩⟩]
      adjacentZones := some [⟨2, {"confined_space"}, 70⟩] }

/-- One permit, one entry. -/
theorem evaluate_fresh_hotWork : ∃ r, evaluate PermitReasoningConfig.default hotWorkInput = .ok r ∧
    r.justification.evidence.decisions.length = 1 := by
  obtain ⟨entry, risk, -, hall⟩ := evaluate_fresh ⟨"gas_risk", 30, 1, ⟨[], .lastKnown 0 0 1⟩, 0, 1⟩
    (hotWorkInput.context.permits.getD []) (hotWorkInput.context.adjacentZones.getD [])
  obtain ⟨r, hr, -, hdecisions, -⟩ := hall hotWorkInput rfl rfl (.refl _) (.refl _)
  exact ⟨r, hr, hdecisions ▸ rfl⟩

/-! ## A stale feed -/

/-- The same input with the feed flag set. -/
def withFeed (input : AgentInput R Uuid) (stale : Bool) : AgentInput R Uuid :=
  { input with context := { input.context with permitFeedStale := some stale } }

theorem permitRank_stale {permit : PermitRecord R Uuid} :
    permitRank true liveGasRisk adjacentZones permit = max permit.status.rank 1 := by
  rw [permitRank, if_pos rfl]

theorem permitRank_le_two {feedStale : Bool} {permit : PermitRecord R Uuid}
    (hopen : permit.status ≠ .closed) :
    permitRank feedStale liveGasRisk adjacentZones permit ≤ 2 := by
  have hstatus : permit.status.rank ≤ 2 := by
    cases h : permit.status <;> simp_all [PermitStatus.rank]
  unfold permitRank
  refine max_le hstatus ?_
  split
  · omega
  · split
    · omega
    · split <;> omega

/-- Of the findings only a SIMOPS conflict asks for more than a stale feed. -/
theorem permitRank_fresh_le {permit : PermitRecord R Uuid} (hopen : permit.status ≠ .closed) :
    permitRank false liveGasRisk adjacentZones permit ≤ permitRank true liveGasRisk adjacentZones permit ↔
      permit.status = .suspendRecommended ∨ ¬Conflicting adjacentZones permit.permitType := by
  rw [permitRank_stale, permitRank, if_neg (by simp)]
  by_cases hconflict : Conflicting adjacentZones permit.permitType
  · rw [if_pos hconflict]
    cases hstatus : permit.status <;> simp_all [PermitStatus.rank]
  · rw [if_neg hconflict]
    refine iff_of_true (max_le_max_left _ ?_) (.inr hconflict)
    split <;> omega

theorem riskOfRank_le_worstRisk {feedStale : Bool} {permits : List (PermitRecord R Uuid)}
    {p : PermitRecord R Uuid} (hp : p ∈ permits) :
    riskOfRank (permitRank feedStale liveGasRisk adjacentZones p) ≤
      worstRisk feedStale liveGasRisk adjacentZones permits := by
  have hmem := List.mem_map_of_mem (f := riskOfRank (R := R))
    (List.mem_map_of_mem (f := permitRank feedStale liveGasRisk adjacentZones) hp)
  exact (List.max?_isGreatest (List.ne_nil_of_mem hmem) 0).2 hmem

theorem worstRisk_le {feedStale : Bool} {permits : List (PermitRecord R Uuid)} {x : R} (hx : 0 ≤ x)
    (h : ∀ p ∈ permits, riskOfRank (permitRank feedStale liveGasRisk adjacentZones p) ≤ x) :
    worstRisk feedStale liveGasRisk adjacentZones permits ≤ x := by
  by_cases hnil : permits = []
  · rw [hnil]
    exact hx
  · obtain ⟨hmem, -⟩ := List.max?_isGreatest (l := (permits.map
      (permitRank feedStale liveGasRisk adjacentZones)).map riskOfRank) (by simpa using hnil) (0 : R)
    obtain ⟨n, hn, hrisk⟩ := List.mem_map.1 hmem
    obtain ⟨p, hp, rfl⟩ := List.mem_map.1 hn
    rw [worstRisk, ← hrisk]
    exact h p hp

variable [IsStrictOrderedRing R]

theorem worstRisk_nonneg {feedStale : Bool} {permits : List (PermitRecord R Uuid)} :
    0 ≤ worstRisk feedStale liveGasRisk adjacentZones permits := by
  cases permits with
  | nil => exact le_rfl
  | cons p ps =>
    exact (riskOfRank_mono (Nat.zero_le _)).trans (riskOfRank_le_worstRisk List.mem_cons_self)

/-- The worst risk falls on a stale feed where a conflict was the worst finding. -/
theorem worstRisk_fresh_le {permits : List (PermitRecord R Uuid)} (hopen : ∀ p ∈ permits, p.status ≠ .closed) :
    worstRisk false liveGasRisk adjacentZones permits ≤ worstRisk true liveGasRisk adjacentZones permits ↔
      (∃ p ∈ permits, p.status = .suspendRecommended) ∨
        ∀ p ∈ permits, ¬Conflicting adjacentZones p.permitType := by
  constructor
  · intro hle
    by_contra hne
    push Not at hne
    obtain ⟨hno, p, hp, hconflict⟩ := hne
    have hfresh : (90 : R) ≤ worstRisk false liveGasRisk adjacentZones permits := by
      refine le_trans (riskOfRank_mono (?_ : 2 ≤ permitRank _ _ _ p)) (riskOfRank_le_worstRisk hp)
      rw [permitRank, if_neg (by simp), if_pos hconflict]
      exact le_max_right _ _
    have hstale : worstRisk true liveGasRisk adjacentZones permits ≤ (65 : R) := by
      refine worstRisk_le (by norm_num) fun q hq => riskOfRank_mono (?_ : _ ≤ 1)
      have hq' := hopen q hq
      have hq'' := hno q hq
      rw [permitRank_stale]
      cases hstatus : q.status <;> simp_all [PermitStatus.rank]
    linarith
  · rintro (⟨p, hp, hsuspend⟩ | hno)
    · refine worstRisk_le worstRisk_nonneg fun q hq => ?_
      refine (riskOfRank_mono ?_).trans (riskOfRank_le_worstRisk hp)
      rw [permitRank_stale, hsuspend]
      exact permitRank_le_two (hopen q hq)
    · exact worstRisk_le worstRisk_nonneg fun q hq =>
        (riskOfRank_mono ((permitRank_fresh_le (hopen q hq)).2 (.inr (hno q hq)))).trans
          (riskOfRank_le_worstRisk hq)

/-- **A stale feed is conservative but for SIMOPS conflicts.** A stale feed recommends for each open permit
at least `flagged`. That is at least as severe as on a fresh feed iff the permit is recommended for
suspension already or has no SIMOPS conflict, and likewise for the risk. -/
theorem evaluate_stale {gasRisk : AgentResult R} (hg : input.upstreamResults "gas_risk" = some gasRisk) :
    ∃ (stale fresh : AgentResult R) (staleStatus freshStatus : PermitRecord R Uuid → PermitStatus),
      evaluate PermitReasoningConfig.default (withFeed input true) = .ok stale ∧
      evaluate PermitReasoningConfig.default (withFeed input false) = .ok fresh ∧
      stale.justification.evidence.decisions.map (·.recommendedStatus) =
        (openPermits input.context).map staleStatus ∧
      fresh.justification.evidence.decisions.map (·.recommendedStatus) =
        (openPermits input.context).map freshStatus ∧
      (∀ p ∈ openPermits input.context,
        (staleStatus p).rank = max p.status.rank PermitStatus.flagged.rank ∧
        ((freshStatus p).rank ≤ (staleStatus p).rank ↔ p.status = .suspendRecommended ∨
          ¬Conflicting (input.context.adjacentZones.getD []) p.permitType)) ∧
      (fresh.risk ≤ stale.risk ↔
        (∃ p ∈ openPermits input.context, p.status = .suspendRecommended) ∨
          ∀ p ∈ openPermits input.context,
            ¬Conflicting (input.context.adjacentZones.getD []) p.permitType) := by
  have hopen : ∀ p ∈ openPermits input.context, p.status ≠ .closed := fun p hp => by
    simpa using (List.mem_filter.1 hp).2
  have hrun : ∀ feedStale, ∃ (r : AgentResult R) (status : PermitRecord R Uuid → PermitStatus),
      evaluate PermitReasoningConfig.default (withFeed input feedStale) = .ok r ∧
      r.justification.evidence.decisions.map (·.recommendedStatus) =
        (openPermits input.context).map status ∧
      (∀ p ∈ openPermits input.context, (status p).rank =
        permitRank feedStale gasRisk.risk (input.context.adjacentZones.getD []) p) ∧
      r.risk = worstRisk feedStale gasRisk.risk (input.context.adjacentZones.getD [])
        (openPermits input.context) := by
    intro feedStale
    obtain ⟨entry, hentry⟩ := exists_entries feedStale gasRisk.risk (input.context.adjacentZones.getD [])
    obtain ⟨r, decisions, hr, hjust, -, hentries, hrisk⟩ :=
      evaluate_entries hentry (show (withFeed input feedStale).upstreamResults "gas_risk" = _ from hg)
        rfl (.refl _)
    refine ⟨r, fun p => (entry p).recommendedStatus, hr, ?_, fun p hp => ?_, hrisk⟩
    · rw [hjust]
      exact (congrArg (List.map (·.recommendedStatus)) hentries).trans List.map_map
    · obtain ⟨d, -, hdecided, he⟩ := hentry p (hopen p hp)
      exact (congrArg (·.recommendedStatus.rank) he).symm.trans hdecided.rank
  obtain ⟨stale, staleStatus, hstale, hsd, hss, hsr⟩ := hrun true
  obtain ⟨fresh, freshStatus, hfresh, hfd, hfs, hfr⟩ := hrun false
  refine ⟨stale, fresh, staleStatus, freshStatus, hstale, hfresh, hsd, hfd, fun p hp => ⟨?_, ?_⟩, ?_⟩
  · rw [hss p hp, permitRank_stale]
    rfl
  · rw [hss p hp, hfs p hp]
    exact permitRank_fresh_le (hopen p hp)
  · rw [hsr, hfr]
    exact worstRisk_fresh_le hopen

/-- What a run recommends, with its risk. -/
def outcome (r : AgentResult ℚ) : List PermitStatus × ℚ :=
  (r.justification.evidence.decisions.map (·.recommendedStatus), r.risk)

theorem hotWorkInput_outcomes :
    ((evaluate PermitReasoningConfig.default (withFeed hotWorkInput true)).toOption.map outcome,
      (evaluate PermitReasoningConfig.default (withFeed hotWorkInput false)).toOption.map outcome) =
    (some ([.flagged], 65), some ([.suspendRecommended], 90)) := by
  decide +kernel

/-- The stale feed takes the permit from `suspend_recommended` to `flagged`. -/
theorem evaluate_stale_hotWork : ∃ stale fresh,
    evaluate PermitReasoningConfig.default (withFeed hotWorkInput true) = .ok stale ∧
    evaluate PermitReasoningConfig.default (withFeed hotWorkInput false) = .ok fresh ∧
    ¬fresh.risk ≤ stale.risk := by
  obtain ⟨stale, fresh, -, -, hstale, hfresh, -, -, -, hrisk⟩ :=
    evaluate_stale (show hotWorkInput.upstreamResults "gas_risk" = _ from rfl)
  refine ⟨stale, fresh, hstale, hfresh, mt hrisk.1 ?_⟩
  rintro (⟨p, hp, hsuspend⟩ | hno)
  · have hp : p ∈ [_] := hp
    rw [List.mem_singleton.1 hp] at hsuspend
    cases hsuspend
  · exact hno ⟨"HW-1", "hot_work", 1, .active, ⟨1, 1, 20, 1, ⟨0, 0⟩⟩⟩ (List.mem_singleton.2 rfl)
      ⟨⟨2, {"confined_space"}, 70⟩, List.mem_singleton.2 rfl, by norm_num, "confined_space",
        Finset.mem_singleton_self _, rfl⟩

theorem evaluate_stale_lower :
    ¬∀ (input : AgentInput ℚ ℕ) (stale fresh : AgentResult ℚ),
      evaluate PermitReasoningConfig.default (withFeed input true) = .ok stale →
      evaluate PermitReasoningConfig.default (withFeed input false) = .ok fresh →
      List.Forall₂ (fun e e' => e.recommendedStatus.rank ≤ e'.recommendedStatus.rank)
        fresh.justification.evidence.decisions stale.justification.evidence.decisions ∧
      fresh.risk ≤ stale.risk := by
  intro h
  obtain ⟨hstale, hfresh⟩ := Prod.mk.inj hotWorkInput_outcomes
  obtain ⟨stale, hstale, hs⟩ := Except.toOption_map_eq_some.1 hstale
  obtain ⟨fresh, hfresh, hf⟩ := Except.toOption_map_eq_some.1 hfresh
  have hle := (h hotWorkInput stale fresh hstale hfresh).2
  rw [(Prod.mk.inj hs).2, (Prod.mk.inj hf).2] at hle
  exact absurd hle (by decide +kernel)

end PermitIntelligence
