import IndustrialSafety.Agents.Proof.Rules
import IndustrialSafety.Orchestrator.Proof.Justification
import IndustrialSafety.Services.JustificationCodec
import IndustrialSafety.Services.Proof.RiskPipeline

/-!
# The readers of a stored justification

* `extractGasRiskScore_serialize`, `buildFeatureVector_stored`, `tierTransition_serialize`,
  `hasInteractionBonus_serialize`: on what the pipeline writes, a reader of the document is the
  reader of the record.
* `zoneCall_quiet`: no result of a tick, genuine or substituted, fires the rule of the interaction
  bonus itself.
* `readers_recover`: what the readers make of the justification of a fused tick.
-/

namespace JustificationCodec

open Py Justification RiskFormula

variable {R Uuid : Type} [Field R] [LinearOrder R]

/-! ## The document and the record -/

section
variable (j : RiskAssessmentJustification R)

omit [Field R] [LinearOrder R] in
theorem lookup_serialize (contributions : List (Contribution R)) (name : String) :
    (contributions.map serializeContribution).lookup name =
      (contributions.find? (·.agentName = name)).map fun c =>
        .object [("risk", .number c.risk), ("confidence", .number c.confidence)] := by
  induction contributions with
  | nil => rfl
  | cons c cs ih =>
    rw [List.map_cons, serializeContribution, List.lookup_cons, List.find?_cons]
    by_cases h : c.agentName = name
    · simp [h]
    · have h' : (name == c.agentName) = false := beq_eq_false_iff_ne.2 (Ne.symm h)
      simpa [h, h'] using ih

omit [LinearOrder R] in
theorem extractGasRiskScore_serialize :
    extractGasRiskScore (serializeJustification j) = ContextBuilders.extractGasRiskScore j := by
  have hc : (serializeJustification j).lookup "agent_contributions" =
    some (.object (j.agentContributions.map serializeContribution)) := rfl
  unfold extractGasRiskScore ContextBuilders.extractGasRiskScore
  rw [hc]
  simp only [Json.object?, Option.bind_eq_bind, Option.bind_some, lookup_serialize]
  cases j.agentContributions.find? (·.agentName = "gas_risk") <;> rfl

omit [LinearOrder R] in
theorem agentRisk_serialize (contributions : List (Contribution R)) (name : String) :
    agentRisk (contributions.map serializeContribution) name =
      Historical.agentRisk contributions name := by
  unfold agentRisk Historical.agentRisk
  rw [lookup_serialize]
  cases contributions.find? (·.agentName = name) <;> rfl

theorem tierOrdinal_str (tier : Tier) : tierOrdinal tier.str = tier.rank := by
  cases tier <;> rfl

theorem buildFeatureVector_stored (a : RiskAssessment R Uuid)
    (previous : Option (RiskAssessment R Uuid)) :
    buildFeatureVector (stored a) (previous.map stored) =
      Historical.buildFeatureVector a previous := by
  have hc : (serializeJustification a.justification).lookup "agent_contributions" =
    some (.object (a.justification.agentContributions.map serializeContribution)) := rfl
  have hb : (serializeJustification a.justification).lookup "interaction_bonus_applied" =
    some (.number a.justification.interactionBonusApplied) := rfl
  simp only [buildFeatureVector, Historical.buildFeatureVector, stored, hc, hb, Option.bind_some,
    Json.object?, Json.number?, Option.getD_some, agentRisk_serialize, tierOrdinal_str]
  cases previous <;> rfl

omit [LinearOrder R] in
theorem tierTransition_serialize :
    tierTransition (serializeJustification j) = some (j.tierBefore.str, j.tierAfter.str) := rfl

omit [LinearOrder R] in
theorem hasInteractionBonus_serialize :
    hasInteractionBonus (serializeJustification j) = true ↔
      "interaction_bonus_applied" ∈ j.rulesFired := by
  have hr : (serializeJustification j).lookup "rules_fired" =
    some (.array (j.rulesFired.map Json.string)) := rfl
  unfold hasInteractionBonus
  rw [hr]
  simp [Json.array?, Json.string?]

end

/-! ## The agents' own rules -/

/-- The rule of the interaction bonus is none of the result's own. -/
def Quiet (r : AgentResult R) : Prop :=
  "interaction_bonus_applied" ∉ r.justification.rulesFired

omit [Field R] [LinearOrder R] in
theorem quiet_of_subset {r : AgentResult R} {rules : List String}
    (h : r.justification.rulesFired ⊆ rules) (hrules : "interaction_bonus_applied" ∉ rules) :
    Quiet r :=
  fun hr => hrules (h hr)

theorem decay_quiet (M : Math R) (lastKnown : AgentResult R) (simTime : Instant)
    (config : Scheduler.SchedulerConfig R) :
    Quiet (Scheduler.decayConfidenceForStaleness M lastKnown simTime config) := by
  simp [Quiet, Scheduler.decayConfidenceForStaleness]

theorem agents_quiet {M : Math R} {a : Agent R Uuid} (ha : a ∈ [GasRisk.agent M,
    EquipmentStatus.agent M, PermitIntelligence.agent, WorkerExposure.agent M])
    {input : AgentInput R Uuid} {r : AgentResult R} (h : a.evaluate input = .ok r) : Quiet r := by
  simp only [List.mem_cons, List.not_mem_nil, or_false] at ha
  rcases ha with rfl | rfl | rfl | rfl
  · exact quiet_of_subset (GasRisk.evaluate_rules h) (by simp [GasRisk.rules])
  · exact quiet_of_subset (EquipmentStatus.evaluate_rules h) (by simp [EquipmentStatus.rules])
  · exact quiet_of_subset (PermitIntelligence.evaluate_rules h) (by simp [PermitIntelligence.rules])
  · exact quiet_of_subset (WorkerExposure.evaluate_rules h) (by simp [WorkerExposure.rules])

/-- The results of a tick are quiet, whatever the cache. -/
theorem zoneCall_quiet [DecidableEq Uuid] {M : Math R} {T : Text R Uuid} {db : Db R Uuid}
    {zoneId : Uuid} {gasType : String} {simTime : Instant} {tickId : Nat}
    {cache cache' : Scheduler.AgentCache R} {results : Results R}
    (h : (RiskPipeline.zoneCall M T db zoneId gasType simTime tickId).run M
      (RiskPipeline.schedulerConfig M) cache = .ok (results, cache')) :
    Scheduler.Results.All Quiet results := by
  refine (RiskPipeline.zoneCall_all (Q := fun _ => True) (fun r _ => decay_quiet M r _ _)
    (fun a ha seen _ r hr => ⟨?_, trivial⟩) (fun _ _ _ => trivial) h).1
  have hquiet : ∀ input x, a.evaluate input = .ok x → Quiet x := fun _ _ => agents_quiet ha
  simp only [List.mem_cons, List.not_mem_nil, or_false] at ha
  rcases ha with rfl | rfl | rfl | rfl <;> obtain ⟨input, -, hr⟩ := Except.bind_eq_ok.1 hr <;>
    exact hquiet _ _ hr

/-! ## What the readers recover -/

/-- Every reader of the document `J` recovers what was fused. -/
structure Recovered (config : FusionConfig R) (result : String → AgentResult R)
    (tierBefore tierAfter : Tier) (J : JsonObject R) : Prop where
  gasRiskScore : extractGasRiskScore J = some (result "gas_risk").risk
  stored : J.lookup "interaction_bonus_applied" =
    some (.number (multiplier config fun n => (result n).risk))
  features : ∀ (row : StoredAssessment R) (previous : Option (StoredAssessment R)),
    row.justification = J →
      let v := buildFeatureVector row previous
      v.gasRisk = (result "gas_risk").risk ∧ v.equipmentRisk = (result "equipment_status").risk ∧
        v.workerRisk = (result "worker_exposure").risk ∧
        v.permitRisk = (result "permit_intelligence").risk ∧
        v.interactionBonus = multiplier config (fun n => (result n).risk) ∧
        v.triggeredAgents = Historical.agentNames.filter fun n => 0 < (result n).risk
  transition : tierTransition J = some (tierBefore.str, tierAfter.str)
  bonus : hasInteractionBonus J = true ↔ 1 < multiplier config (fun n => (result n).risk) ∨
    ∃ n ∈ Historical.agentNames, ¬Quiet (result n)

section
variable {config : FusionConfig R} {result : String → AgentResult R} {f : FusionResult R Uuid}
  {tierBefore tierAfter : Tier} {j : RiskAssessmentJustification R}

/-- The agents of a configuration, each with its contribution. -/
theorem contributions_find? {name : String}
    (hname : name ∈ config.agentWeights.map Prod.fst) :
    (config.agentWeights.map fun p => (⟨p.1, (result p.1).risk, (result p.1).confidence⟩ :
      Contribution R)).find? (·.agentName = name) =
        some ⟨name, (result name).risk, (result name).confidence⟩ := by
  rw [List.find?_map, Option.map_eq_some_iff]
  obtain ⟨p, hp⟩ : ∃ p, config.agentWeights.find? (·.1 = name) = some p := by
    rw [← Option.isSome_iff_exists, List.find?_isSome]
    simpa using hname
  refine ⟨p, hp, ?_⟩
  obtain rfl : p.1 = name := by simpa using List.find?_some hp
  rfl

theorem agentRisk_fused (hj : Built config result f tierBefore tierAfter j) {name : String}
    (hname : name ∈ config.agentWeights.map Prod.fst) :
    Historical.agentRisk j.agentContributions name = (result name).risk := by
  rw [Historical.agentRisk, hj.contributions, contributions_find? hname]
  rfl

/-- The rule is fired with the bonus, or by an agent. -/
theorem bonus_rule_iff (hrules : f.rulesFired = "weighted_sum_fusion" ::
      if 1 < f.interactionBonusApplied then ["interaction_bonus_applied"] else [])
    (hj : Built config result f tierBefore tierAfter j) :
    "interaction_bonus_applied" ∈ j.rulesFired ↔ 1 < f.interactionBonusApplied ∨
      ∃ p ∈ config.agentWeights, ¬Quiet (result p.1) := by
  have htransition : "interaction_bonus_applied" ≠ determineTierTransitionRule tierBefore tierAfter := by
    intro h
    have := h ▸ @determineTierTransitionRule_mem tierBefore tierAfter
    simp at this
  rw [hj.rules, or_comm, or_iff_left htransition, hrules]
  refine or_congr ?_ ?_
  · split <;> simp [*]
  · simp only [Quiet, not_not]

theorem recovered (hnames : ∀ n, n ∈ config.agentWeights.map Prod.fst ↔ n ∈ Historical.agentNames)
    (hbonus : f.interactionBonusApplied = multiplier config (fun n => (result n).risk) ∧
      f.rulesFired = "weighted_sum_fusion" ::
        if 1 < f.interactionBonusApplied then ["interaction_bonus_applied"] else [])
    (hj : Built config result f tierBefore tierAfter j) :
    Recovered config result tierBefore tierAfter (serializeJustification j) := by
  have hrisk : ∀ n ∈ Historical.agentNames,
      agentRisk (j.agentContributions.map serializeContribution) n = (result n).risk :=
    fun n hn => (agentRisk_serialize _ n).trans (agentRisk_fused hj ((hnames n).2 hn))
  have hc : (serializeJustification j).lookup "agent_contributions" =
    some (.object (j.agentContributions.map serializeContribution)) := rfl
  have hb : (serializeJustification j).lookup "interaction_bonus_applied" =
      some (.number (multiplier config fun n => (result n).risk)) := by
    rw [← hbonus.1, ← hj.bonus]
    rfl
  refine ⟨?_, hb, fun row previous hrow => ?_, ?_, ?_⟩
  · rw [extractGasRiskScore_serialize, ContextBuilders.extractGasRiskScore, hj.contributions,
      contributions_find? ((hnames _).2 (by simp [Historical.agentNames]))]
    rfl
  · simp only [buildFeatureVector, hrow, hc, hb, Option.bind_some, Json.object?, Json.number?,
      Option.getD_some]
    refine ⟨hrisk _ (by simp [Historical.agentNames]), hrisk _ (by simp [Historical.agentNames]),
      hrisk _ (by simp [Historical.agentNames]), hrisk _ (by simp [Historical.agentNames]), trivial,
      List.filter_congr fun n hn => ?_⟩
    rw [hrisk n hn]
  · rw [tierTransition_serialize, hj.before, hj.after]
  · rw [hasInteractionBonus_serialize, bonus_rule_iff hbonus.2 hj, hbonus.1]
    refine or_congr_right ?_
    constructor
    · rintro ⟨p, hp, hr⟩
      exact ⟨p.1, (hnames p.1).1 (List.mem_map_of_mem hp), hr⟩
    · rintro ⟨n, hn, hr⟩
      obtain ⟨p, hp, rfl⟩ := List.mem_map.1 ((hnames n).2 hn)
      exact ⟨p, hp, hr⟩

end

/-- Results at one risk that each fire one rule. -/
def firing (rule : String) (risk : ℚ) (name : String) : AgentResult ℚ :=
  ⟨name, risk, 1, ⟨[rule], .lastKnown 0 0 1⟩, 0, 1⟩

end JustificationCodec
