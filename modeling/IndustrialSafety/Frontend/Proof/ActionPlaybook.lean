import IndustrialSafety.Frontend.ActionPlaybook
import IndustrialSafety.Frontend.Proof.Recommendations
import IndustrialSafety.Lib.StableSort
import IndustrialSafety.Orchestrator.Proof.Justification
import IndustrialSafety.Services.Proof.Range

/-!
# The order of the action queue

The priorities are the positions of the recommendations (`severityOrdered_iff`), and these have the
severity of the tier's baseline and then those of the recognised rules in the order in which they fired
(`severities_deriveRecommendations`). Nothing sorts them: the queue is ordered by severity iff the rules
fired in that order (`buildActionQueue_ordered_iff`).
-/

namespace Frontend

open KnowledgeGraph (Severity)
open Justification Py
open RiskFormula (FusionResult)

variable {R Uuid : Type} [Field R] [LinearOrder R]

def severityRank : Severity → ℕ
  | .critical => 2
  | .high => 1
  | .medium => 0

/-- No action comes before a more severe one. -/
def SeverityOrdered (queue : List PrioritizedAction) : Prop :=
  ∀ a ∈ queue, ∀ b ∈ queue, a.priority < b.priority →
    ∀ s ∈ a.recommendation.severity, ∀ t ∈ b.recommendation.severity, severityRank t ≤ severityRank s

/-- The severity of the recommendation of a rule. -/
def ruleSeverity (rule : String) : Option Severity :=
  (lookupRule rule).bind Entry.severity

/-! ## The severities of the recommendations -/

theorem mem_ruleRecommendations {rule : String} {r : Recommendation}
    (h : lookupRule rule = some (.recommendation r)) : (rule, r) ∈ ruleRecommendations := by
  have hlookup : ruleRecommendations.lookup rule = some r := by
    unfold lookupRule property at h
    cases hfind : ruleRecommendations.lookup rule with
    | some r' =>
      rw [hfind] at h
      cases h
      rfl
    | none =>
      rw [hfind] at h
      by_cases hproto : rule ∈ objectPrototype <;> simp [hproto] at h
  obtain ⟨before, after, heq, -⟩ := List.lookup_eq_some_iff.1 hlookup
  rw [heq]
  exact List.mem_append_right _ List.mem_cons_self

theorem lookupRule_id {rule : String} {r : Recommendation}
    (h : lookupRule rule = some (.recommendation r)) : r.id = rule := by
  have hall : ∀ p ∈ ruleRecommendations, p.2.id = p.1 := by decide
  exact hall _ (mem_ruleRecommendations h)

theorem ruleSeverity_ne_critical (rule : String) : ruleSeverity rule ≠ some .critical := by
  intro h
  obtain ⟨entry, hentry, hseverity⟩ := Option.bind_eq_some_iff.1 h
  cases entry with
  | inherited => cases hseverity
  | recommendation r =>
    have hall : ∀ p ∈ ruleRecommendations, p.2.severity ≠ .critical := by decide
    exact hall _ (mem_ruleRecommendations hentry) (Option.some.inj hseverity)

/-- No rule is pushed twice, so each recognised one adds its severity. -/
theorem severities_foldl {rules : List String} {recommendations : List Entry} (hnodup : rules.Nodup)
    (hnew : ∀ rule ∈ rules, some rule ∈ recommendations.map Entry.id → lookupRule rule = none) :
    (rules.foldl pushRule recommendations).filterMap Entry.severity =
      recommendations.filterMap Entry.severity ++ rules.filterMap ruleSeverity := by
  induction rules generalizing recommendations with
  | nil => simp
  | cons rule rules ih =>
    rw [List.nodup_cons] at hnodup
    rw [List.forall_mem_cons] at hnew
    -- what the rule pushes, and that it is the id of no later rule
    have hpush : (pushRule recommendations rule).filterMap Entry.severity =
        recommendations.filterMap Entry.severity ++ (ruleSeverity rule).toList ∧
          ∀ rule' ∈ rules, some rule' ∈ (pushRule recommendations rule).map Entry.id →
            lookupRule rule' = none := by
      unfold pushRule ruleSeverity
      cases hlookup : lookupRule rule with
      | none => exact ⟨by simp, hnew.2⟩
      | some entry =>
        dsimp only
        cases entry with
        | inherited =>
          split
          · exact ⟨by simp [Entry.severity], hnew.2⟩
          · exact ⟨by simp [Entry.severity], fun rule' hrule' hmem => hnew.2 rule' hrule' (by
              simpa [Entry.id] using hmem)⟩
        | recommendation r =>
          have hid : (Entry.recommendation r).id = some rule := congrArg some (lookupRule_id hlookup)
          have hany : ¬recommendations.any (·.id = (Entry.recommendation r).id) = true := by
            intro hany
            obtain ⟨entry, hentry, hsame⟩ := List.any_eq_true.1 hany
            have hnone := hnew.1 (List.mem_map.2 ⟨entry, hentry, (of_decide_eq_true hsame).trans hid⟩)
            cases hlookup.symm.trans hnone
          rw [if_neg hany]
          refine ⟨by simp [Entry.severity], fun rule' hrule' hmem => ?_⟩
          rw [List.map_append, List.mem_append, List.map_singleton, hid, List.mem_singleton] at hmem
          rcases hmem with hold | hsame
          · exact hnew.2 rule' hrule' hold
          · exact absurd (Option.some.inj hsame ▸ hrule') hnodup.1
    rw [List.foldl_cons, ih hnodup.2 hpush.2, hpush.1, List.append_assoc]
    cases hseverity : ruleSeverity rule <;> simp [hseverity]

def baselineSeverity (tier : Tier) : Option Severity :=
  (tierBaseline tier).map Recommendation.severity

theorem severities_deriveRecommendations (tier : Tier) {rules : List String} (hnodup : rules.Nodup) :
    (deriveRecommendations tier (some rules)).filterMap Entry.severity =
      (baselineSeverity tier).toList ++ rules.filterMap ruleSeverity := by
  have hbaseline : ∀ id ∈ ((tierBaseline tier).map Entry.recommendation).toList.map Entry.id,
      id.bind lookupRule = none := by
    cases tier <;> decide
  rw [deriveRecommendations, severities_foldl hnodup fun rule _ hmem => hbaseline _ hmem]
  congr 1
  cases tier <;> rfl

/-! ## The queue -/

theorem getActionMetadata_of_mem {rule : String} {r : Recommendation}
    (h : lookupRule rule = some (.recommendation r)) :
    (getActionMetadata (some r.id)).isSome := by
  have hall : ∀ p ∈ ruleRecommendations, (getActionMetadata (some p.2.id)).isSome := by decide
  exact hall _ (mem_ruleRecommendations h)

/-- Every recommendation has metadata. -/
theorem getActionMetadata_deriveRecommendations (tier : Tier) (rules : List String) :
    ∀ entry ∈ deriveRecommendations tier (some rules), (getActionMetadata entry.id).isSome := by
  have hbaseline : ∀ entry ∈ ((tierBaseline tier).map Entry.recommendation).toList,
      (getActionMetadata entry.id).isSome := by
    cases tier <;> decide
  unfold deriveRecommendations
  dsimp only
  generalize ((tierBaseline tier).map Entry.recommendation).toList = recommendations at hbaseline ⊢
  induction rules generalizing recommendations with
  | nil => exact hbaseline
  | cons rule rules ih =>
    refine ih _ fun entry hentry => ?_
    unfold pushRule at hentry
    split at hentry
    · exact hbaseline entry hentry
    case h_2 found hfound =>
      split at hentry
      · exact hbaseline entry hentry
      · rcases List.mem_append.1 hentry with hold | hnew
        · exact hbaseline entry hold
        · obtain rfl := List.mem_singleton.1 hnew
          cases entry with
          | inherited => decide
          | recommendation r => exact getActionMetadata_of_mem hfound

omit [Field R] in
/-- The queue has the recommendations at their positions. -/
theorem buildActionQueue_spec (justification : Option (RiskJustification R))
    {recommendations : List Entry} (h : ∀ entry ∈ recommendations, (getActionMetadata entry.id).isSome) :
    ∃ queue, buildActionQueue recommendations justification = some queue ∧
      queue.map PrioritizedAction.recommendation = recommendations ∧
        queue.map PrioritizedAction.priority = List.range' 1 recommendations.length := by
  let metadata (entry : Entry) := (getActionMetadata entry.id).getD fallbackEntry
  refine ⟨recommendations.zipIdx.map fun p =>
      ⟨p.1, p.2 + 1, metadata p.1, computeImpactLevel (metadata p.1) justification,
        (metadata p.1).dependsOn.filter fun id => some id ∈ recommendations.map Entry.id⟩,
    Option.mapM_eq_some_map fun p hmem => ?_, ?_, ?_⟩
  · have hmetadata : getActionMetadata p.1.id = some (metadata p.1) :=
      (Option.getD_eq_iff.1 rfl).resolve_right fun hnone =>
        Option.isSome_iff_ne_none.1 (h _ (List.fst_mem_of_mem_zipIdx hmem)) hnone.1
    dsimp only
    rw [hmetadata]
    rfl
  · rw [List.map_map]
    exact List.zipIdx_map_fst 0 recommendations
  · rw [List.map_map]
    show recommendations.zipIdx.map ((· + 1) ∘ Prod.snd) = _
    rw [← List.map_map, List.zipIdx_map_snd, ← List.range'_succ_left]

/-- The priorities rank by severity iff the severities do not increase. -/
theorem severityOrdered_iff {queue : List PrioritizedAction} {n : ℕ}
    (hpriority : queue.map PrioritizedAction.priority = List.range' 1 n) :
    SeverityOrdered queue ↔ ((queue.map PrioritizedAction.recommendation).filterMap
      Entry.severity).Pairwise fun s t => severityRank t ≤ severityRank s := by
  have hsorted : queue.Pairwise fun a b => a.priority < b.priority := by
    rw [← List.pairwise_map, hpriority]
    exact List.pairwise_lt_range'
  rw [List.pairwise_filterMap, List.pairwise_map]
  exact (StableSort.pairwise_iff_forall hsorted fun _ _ => lt_asymm).symm

/-- The severities of the baseline and of the rules, in this order. -/
theorem severities_ordered_iff (tier : Tier) (rules : List String) :
    ((baselineSeverity tier).toList ++ rules.filterMap ruleSeverity).Pairwise
        (fun s t => severityRank t ≤ severityRank s) ↔
      (tier = .watch → ∀ rule ∈ rules, ruleSeverity rule ≠ some .high) ∧
        rules.Pairwise fun a b => ruleSeverity a = some .medium → ruleSeverity b ≠ some .high := by
  have hbaseline : (baselineSeverity tier).toList.Pairwise
      fun s t => severityRank t ≤ severityRank s := by
    cases tier <;> decide
  -- a recommended rule is of high or of medium severity
  have hrules : ∀ a b : String, (∀ s, ruleSeverity a = some s → ∀ t, ruleSeverity b = some t →
      severityRank t ≤ severityRank s) ↔
        (ruleSeverity a = some .medium → ruleSeverity b ≠ some .high) := by
    intro a b
    have ha := ruleSeverity_ne_critical a
    have hb := ruleSeverity_ne_critical b
    generalize ruleSeverity a = s at ha ⊢
    generalize ruleSeverity b = t at hb ⊢
    rcases s with _ | s
    · simp
    rcases t with _ | t
    · simp
    cases s <;> cases t <;> simp_all [severityRank]
  have hcross : (∀ s ∈ (baselineSeverity tier).toList, ∀ t ∈ rules.filterMap ruleSeverity,
      severityRank t ≤ severityRank s) ↔
        (tier = .watch → ∀ rule ∈ rules, ruleSeverity rule ≠ some .high) := by
    simp only [List.mem_filterMap, forall_exists_index, and_imp]
    cases tier with
    | normal => exact iff_of_true nofun nofun
    | watch =>
      show (∀ s ∈ [Severity.medium], _) ↔ _
      simp only [List.forall_mem_singleton, forall_const]
      refine ⟨fun h rule hrule hhigh => absurd (h .high rule hrule hhigh) (by decide),
        fun h t rule hrule ht => ?_⟩
      cases t with
      | critical => exact absurd ht (ruleSeverity_ne_critical rule)
      | high => exact absurd ht (h rule hrule)
      | medium => exact le_rfl
    | elevated =>
      show (∀ s ∈ [Severity.high], _) ↔ _
      simp only [List.forall_mem_singleton]
      refine iff_of_true (fun t rule _ ht => ?_) nofun
      cases t with
      | critical => exact absurd ht (ruleSeverity_ne_critical rule)
      | high => exact le_rfl
      | medium => exact Nat.zero_le _
    | critical =>
      show (∀ s ∈ [Severity.critical], _) ↔ _
      simp only [List.forall_mem_singleton]
      refine iff_of_true (fun t _ _ _ => ?_) nofun
      cases t <;> decide
  rw [List.pairwise_append, List.pairwise_filterMap, and_iff_right hbaseline, and_comm, hcross]
  exact and_congr_right fun _ => List.Pairwise.iff hrules

omit [Field R] in
/-- When the queue is ordered by severity, for rules without repetition: iff no rule of high severity
fired in a zone whose tier is watch, and none behind a rule of medium severity. -/
theorem severityOrdered_queue_iff (tier : Tier) {justification : RiskJustification R}
    (hnodup : justification.rulesFired.Nodup) :
    (∃ queue, buildActionQueue (deriveRecommendations tier (some justification.rulesFired))
        (some justification) = some queue ∧ SeverityOrdered queue) ↔
      (tier = .watch → ∀ rule ∈ justification.rulesFired, ruleSeverity rule ≠ some .high) ∧
        justification.rulesFired.Pairwise fun a b =>
          ruleSeverity a = some .medium → ruleSeverity b ≠ some .high := by
  obtain ⟨queue, hqueue, hrecommendations, hpriority⟩ :=
    buildActionQueue_spec (some justification)
      (getActionMetadata_deriveRecommendations tier justification.rulesFired)
  rw [hqueue, ← severities_ordered_iff, ← severities_deriveRecommendations tier hnodup,
    ← hrecommendations, ← severityOrdered_iff hpriority]
  exact ⟨fun ⟨_, heq, hordered⟩ => Option.some.inj heq ▸ hordered, fun hordered => ⟨_, rfl, hordered⟩⟩

omit [Field R] in
/-- **When the queue of the rules of a tick is ordered by severity**: iff no rule of high severity fired
in a zone whose tier is watch, and none behind a rule of medium severity. -/
theorem buildActionQueue_ordered_iff (tier : Tier) (justification : RiskJustification R)
    {results : Results R} {fusion : FusionResult R Uuid} {contributions : List (Contribution R)}
    {tierBefore tierAfter : Tier}
    (h : buildRulesFired results fusion contributions tierBefore tierAfter =
      .ok justification.rulesFired) :
    (∃ queue, buildActionQueue (deriveRecommendations tier (some justification.rulesFired))
        (some justification) = some queue ∧ SeverityOrdered queue) ↔
      (tier = .watch → ∀ rule ∈ justification.rulesFired, ruleSeverity rule ≠ some .high) ∧
        justification.rulesFired.Pairwise fun a b =>
          ruleSeverity a = some .medium → ruleSeverity b ≠ some .high := by
  obtain ⟨fired, -, hrules⟩ := Except.bind_eq_ok.1 h
  refine severityOrdered_queue_iff tier ?_
  rw [← Except.ok.inj hrules, dedupePreservingOrder_eq]
  exact FirstOccurrence.eraseDups_nodup _

/-! ## The rules of a tick -/

/-- What `parseJustification` reads of a persisted justification. -/
def RiskJustification.ofPersisted (j : RiskAssessmentJustification R) : RiskJustification R where
  rulesFired := j.rulesFired
  agentContributions := j.agentContributions.map fun c => (c.agentName, ⟨c.risk, c.confidence⟩)

theorem evaluateTick_rulesFired [IsStrictOrderedRing R] [DecidableEq Uuid] {M : Math R}
    {T : Text R Uuid} {db : Db R Uuid} {zoneId : Uuid} {gasType : String} {simTime : DateTime}
    {tickId : ℕ} {cache : Scheduler.AgentCache R} {tierState : Tiering.TierState R}
    {e : RiskPipeline.Evaluation R Uuid}
    (h : RiskPipeline.evaluateTick M T db zoneId gasType simTime tickId cache tierState = .ok e) :
    ∃ fusion : FusionResult R Uuid, buildRulesFired e.agentResults fusion
      (buildAgentContributions fusion) tierState.currentTier e.tierState.currentTier =
        .ok e.assessment.justification.rulesFired := by
  obtain ⟨⟨results, cache'⟩, -, h⟩ := Except.bind_eq_ok.1 h
  obtain ⟨fusion, -, h⟩ := Except.bind_eq_ok.1 h
  obtain ⟨justification, hj, h⟩ := Except.bind_eq_ok.1 h
  cases h
  refine ⟨fusion, ?_⟩
  unfold buildRiskAssessmentJustification at hj
  dsimp only at hj
  split at hj
  · cases hj
  · obtain ⟨rules, hrules, hj⟩ := Except.bind_eq_ok.1 hj
    cases hj
    exact hrules

/-- Zone 1 has no data: all its recommendations are of high severity. -/
theorem missing_data_ordered : ∃ e queue, RiskPipeline.evaluateTick Math.dyadic plainText
      Runtime.plant 1 "CO" ⟨0, 0⟩ 0 {} Tiering.TierState.initial = .ok e ∧
    buildActionQueue (deriveRecommendations e.assessment.tier
      (some e.assessment.justification.rulesFired))
        (some (.ofPersisted e.assessment.justification)) = some queue ∧
    SeverityOrdered queue := by
  have hok : (RiskPipeline.evaluateTick Math.dyadic plainText Runtime.plant 1 "CO" ⟨0, 0⟩ 0 {}
      Tiering.TierState.initial).toOption.map (fun e =>
        (e.assessment.tier, e.assessment.justification.rulesFired)) =
      some (.normal, ["missing_data_fail_safe", "no_open_permits", "exposure_weighted_headcount",
        "confirmed_empty_inventory", "weighted_sum_fusion", "tier_stable"]) := by decide +kernel
  obtain ⟨e, he, hvalues⟩ := Except.toOption_map_eq_some.1 hok
  obtain ⟨htier, hrules⟩ := Prod.mk.inj hvalues
  obtain ⟨fusion, hfusion⟩ := evaluateTick_rulesFired he
  obtain ⟨queue, hqueue, hordered⟩ := (buildActionQueue_ordered_iff e.assessment.tier
    (.ofPersisted e.assessment.justification) hfusion).2 (by
      show _ ∧ e.assessment.justification.rulesFired.Pairwise _
      rw [htier, hrules]
      exact ⟨nofun, by decide⟩)
  exact ⟨e, queue, he, hqueue, hordered⟩

/-- A worker stands in zone 1. -/
def mannedPlant : Db ℚ ℕ :=
  { Runtime.plant with workers := Runtime.plant.workers.upsert ⟨9, "operator", some 1⟩ }

/-- An hour after the last reading, the check of the sensor is put before the unauthorized worker. -/
theorem stale_data_first : ∃ e queue, ∃ fusion : FusionResult ℚ ℕ,
    RiskPipeline.evaluateTick Math.dyadic plainText ((Runtime.State.seeded mannedPlant).run
      Math.dyadic plainText [Runtime.ingestTwenty]).db 1 "CO" ⟨3600000000, 0⟩ 0 {}
        Tiering.TierState.initial = .ok e ∧
    buildRulesFired e.agentResults fusion (buildAgentContributions fusion) .normal
      e.tierState.currentTier = .ok e.assessment.justification.rulesFired ∧
    buildActionQueue (deriveRecommendations e.assessment.tier
      (some e.assessment.justification.rulesFired))
        (some (.ofPersisted e.assessment.justification)) = some queue ∧
    ¬SeverityOrdered queue := by
  have hok : (RiskPipeline.evaluateTick Math.dyadic plainText ((Runtime.State.seeded mannedPlant).run
      Math.dyadic plainText [Runtime.ingestTwenty]).db 1 "CO" ⟨3600000000, 0⟩ 0 {}
        Tiering.TierState.initial).toOption.map (fun e =>
          (e.assessment.tier, e.assessment.justification.rulesFired)) =
      some (.normal, ["stale_data_fail_safe", "insufficient_history", "no_open_permits",
        "exposure_weighted_headcount", "unauthorized_presence", "confirmed_empty_inventory",
        "weighted_sum_fusion", "interaction_bonus_applied", "tier_stable"]) := by decide +kernel
  obtain ⟨e, he, hvalues⟩ := Except.toOption_map_eq_some.1 hok
  obtain ⟨htier, hrules⟩ := Prod.mk.inj hvalues
  obtain ⟨fusion, hfusion⟩ := evaluateTick_rulesFired he
  obtain ⟨queue, hqueue, -⟩ := buildActionQueue_spec
    (some (.ofPersisted e.assessment.justification))
    (getActionMetadata_deriveRecommendations e.assessment.tier e.assessment.justification.rulesFired)
  refine ⟨e, queue, fusion, he, hfusion, hqueue, fun hordered => ?_⟩
  have hnodup : (RiskJustification.ofPersisted e.assessment.justification).rulesFired.Nodup := by
    show e.assessment.justification.rulesFired.Nodup
    rw [hrules]
    decide
  have hpairwise := ((severityOrdered_queue_iff e.assessment.tier hnodup).1
    ⟨queue, hqueue, hordered⟩).2
  change e.assessment.justification.rulesFired.Pairwise _ at hpairwise
  rw [hrules] at hpairwise
  revert hpairwise
  decide

end Frontend
