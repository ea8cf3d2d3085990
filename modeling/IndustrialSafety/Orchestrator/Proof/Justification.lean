import IndustrialSafety.Lib.FirstOccurrence
import IndustrialSafety.Orchestrator.Justification
import IndustrialSafety.Orchestrator.Proof.RiskFormula

/-!
# The justification of a fused tick

`build_ok`: when every weighted agent has its result, the justification of a fusion result is built,
and what it contains. `build_rulesFired`: for any fusion result, when the justification is built, and how
its rules are put together.
-/

namespace Justification

open Py RiskFormula

variable {R Uuid : Type} [Field R] [LinearOrder R] {config : FusionConfig R} {results : Results R}
  {result : String → AgentResult R} {f : FusionResult R Uuid} {tierBefore tierAfter : Tier}

/-- The justification of a fusion of the agents' results. -/
structure Built (config : FusionConfig R) (result : String → AgentResult R)
    (f : FusionResult R Uuid) (tierBefore tierAfter : Tier) (j : RiskAssessmentJustification R) :
    Prop where
  contributions : j.agentContributions =
    config.agentWeights.map fun p => ⟨p.1, (result p.1).risk, (result p.1).confidence⟩
  bonus : j.interactionBonusApplied = f.interactionBonusApplied
  before : j.tierBefore = tierBefore
  after : j.tierAfter = tierAfter
  rules : ∀ rule, rule ∈ j.rulesFired ↔
    (∃ p ∈ config.agentWeights, rule ∈ (result p.1).justification.rulesFired) ∨
      rule ∈ f.rulesFired ∨ rule = determineTierTransitionRule tierBefore tierAfter

omit [LinearOrder R] in
theorem determineTierTransitionRule_mem : determineTierTransitionRule tierBefore tierAfter ∈
    ["tier_stable", "tier_escalated", "tier_de_escalated"] := by
  unfold determineTierTransitionRule
  split
  · simp
  · split <;> simp

/-! ## The dict and the list without repetitions -/

theorem dedupePreservingOrder_eq (items : List String) :
    dedupePreservingOrder items = items.eraseDups := by
  have hloop : items.foldl (fun p item =>
      if item ∈ p.1 then (p.1, p.2) else (insert item p.1, p.2 ++ [item]))
        ((∅ : Finset String), []) = (items.eraseDups.toFinset, items.eraseDups) := by
    induction items using List.reverseRecOn with
    | nil => rfl
    | append_singleton items item ih =>
      rw [List.foldl_concat, ih, FirstOccurrence.eraseDups_concat]
      by_cases hitem : item ∈ items
      · simp [hitem]
      · have hseen : insert item items.eraseDups.toFinset = (items.eraseDups ++ [item]).toFinset := by
          ext x
          simp
        rw [if_neg hitem, ← hseen]
        exact if_neg (by simpa using hitem)
  exact congrArg Prod.snd hloop

omit [Field R] [LinearOrder R] in
/-- The names of the dict are the agents in fusion order. -/
theorem buildAgentContributions_names (f : FusionResult R Uuid) :
    (buildAgentContributions f).map Contribution.agentName =
      (f.agentContributions.map AgentContribution.agentName).eraseDups := by
  unfold buildAgentContributions
  induction f.agentContributions using List.reverseRecOn with
  | nil => rfl
  | append_singleton cs c ih =>
    rw [List.foldl_concat, Table.map_key_upsertRow, ih, List.map_append,
      List.map_singleton, FirstOccurrence.eraseDups_concat]
    simp only [List.mem_eraseDups]

omit [Field R] [LinearOrder R] in
/-- Where no agent contributes twice, the dict is the list. -/
theorem buildAgentContributions_of_nodup
    (h : (f.agentContributions.map AgentContribution.agentName).Nodup) :
    buildAgentContributions f =
      f.agentContributions.map fun c => ⟨c.agentName, c.rawRisk, c.confidence⟩ := by
  unfold buildAgentContributions
  revert h
  induction f.agentContributions using List.reverseRecOn with
  | nil => exact fun _ => rfl
  | append_singleton cs c ih =>
    intro h
    rw [List.map_append, List.map_singleton] at h
    obtain ⟨hcs, -, hdisjoint⟩ := List.nodup_append.1 h
    have hnew : c.agentName ∉ cs.map AgentContribution.agentName := fun hmem =>
      hdisjoint _ hmem _ (by simp) rfl
    rw [List.foldl_concat, ih hcs, Table.upsertRow_of_notMem, List.map_append, List.map_singleton]
    rw [List.map_map]
    exact hnew

theorem buildAgentContributions_fused (hf : Fused config result f) : buildAgentContributions f =
    config.agentWeights.map fun p => ⟨p.1, (result p.1).risk, (result p.1).confidence⟩ := by
  have hnames : (f.agentContributions.map AgentContribution.agentName).Nodup := by
    rw [hf.contributions, List.map_map]
    exact config.names_nodup
  rw [buildAgentContributions_of_nodup hnames, hf.contributions, List.map_map]
  rfl

/-! ## The justification of a fusion of the agents' results -/

theorem buildRulesFired_ok (h : Given config results result) (hf : Fused config result f) :
    ∃ rules, buildRulesFired results f (buildAgentContributions f) tierBefore tierAfter = .ok rules ∧
      ∀ rule, rule ∈ rules ↔
        (∃ p ∈ config.agentWeights, rule ∈ (result p.1).justification.rulesFired) ∨
          rule ∈ f.rulesFired ∨ rule = determineTierTransitionRule tierBefore tierAfter := by
  have hfired : (buildAgentContributions f).mapM (fun c => do
      let r ← results.get c.agentName
      pure r.justification.rulesFired) =
      .ok (config.agentWeights.map fun p => (result p.1).justification.rulesFired) := by
    rw [buildAgentContributions_fused hf, List.mapM_map]
    exact Except.mapM_ok fun p hp => by simp [Results.get_ok.2 (h p hp)]
  refine ⟨_, by rw [buildRulesFired, hfired]; rfl, fun rule => ?_⟩
  simp [dedupePreservingOrder_eq, List.mem_eraseDups, List.mem_flatten]

theorem build_ok (h : Given config results result) (hf : Fused config result f) :
    ∃ j, buildRiskAssessmentJustification results f tierBefore tierAfter = .ok j ∧
      Built config result f tierBefore tierAfter j := by
  have hmissing : ((buildAgentContributions f).map Contribution.agentName).filter
      (fun name => (results name).isNone) = [] := by
    rw [buildAgentContributions_fused hf, List.map_map, List.filter_eq_nil_iff]
    intro name hname
    obtain ⟨p, hp, rfl⟩ := List.mem_map.1 hname
    simp [h p hp]
  obtain ⟨rules, hrules, hmem⟩ := @buildRulesFired_ok _ _ _ _ _ _ _ _ tierBefore tierAfter h hf
  refine ⟨⟨justificationSchemaVersion, rules, buildAgentContributions f, f.interactionBonusApplied,
    tierBefore, tierAfter⟩, ?_, buildAgentContributions_fused hf, rfl, rfl, rfl, hmem⟩
  unfold buildRiskAssessmentJustification
  simp only [hmissing, ne_eq, not_true_eq_false, if_false]
  rw [hrules]
  rfl

/-! ## The rules of any fusion result -/

/-- The rules of an agent, none without a result. -/
def agentRules (results : Results R) (name : String) : List String :=
  (results name).elim [] fun r => r.justification.rulesFired

/-- The rules of the agents in fusion order, then the rules of the fusion, then the transition. -/
def collected (results : Results R) (f : FusionResult R Uuid) (tierBefore tierAfter : Tier) :
    List String :=
  (f.agentContributions.flatMap fun c => agentRules results c.agentName) ++ f.rulesFired ++
    [determineTierTransitionRule tierBefore tierAfter]

/-- A rule with a name of the form `tier_*`. -/
def IsTierRule (rule : String) : Prop := "tier_".toList <+: rule.toList

/-- The rules that are put together for a tick. -/
structure Aggregates (results : Results R) (f : FusionResult R Uuid) (tierBefore tierAfter : Tier)
    (rules : List String) : Prop where
  nodup : rules.Nodup
  mem : ∀ rule, rule ∈ rules ↔
    (∃ c ∈ f.agentContributions, ∃ r, results c.agentName = some r ∧
      rule ∈ r.justification.rulesFired) ∨
      rule ∈ f.rulesFired ∨ rule = determineTierTransitionRule tierBefore tierAfter
  order : ∀ a ∈ rules, ∀ b ∈ rules, rules.idxOf a < rules.idxOf b ↔
    (collected results f tierBefore tierAfter).idxOf a <
      (collected results f tierBefore tierAfter).idxOf b

/-- One rule on the tier, the last one, says how the tier changed. -/
structure EndsInTransition (tierBefore tierAfter : Tier) (rules : List String) : Prop where
  last : ∃ others rule, rules = others ++ [rule] ∧ IsTierRule rule ∧ ∀ r ∈ others, ¬IsTierRule r
  escalated : tierBefore.rank < tierAfter.rank → rules.getLast? = some "tier_escalated"
  stable : tierBefore.rank = tierAfter.rank → rules.getLast? = some "tier_stable"
  deEscalated : tierAfter.rank < tierBefore.rank → rules.getLast? = some "tier_de_escalated"

omit [Field R] [LinearOrder R] in
/-- What `agent_results[agent_name]` gives for every contributing agent. -/
theorem mapM_rules {results : Results R} {contributions : List (Contribution R)}
    (h : ∀ c ∈ contributions, (results c.agentName).isSome) :
    contributions.mapM (fun c => do
      let r ← results.get c.agentName
      pure r.justification.rulesFired) =
        .ok (contributions.map fun c => agentRules results c.agentName) := by
  refine Except.mapM_ok fun c hc => ?_
  obtain ⟨r, hr⟩ := Option.isSome_iff_exists.1 (h c hc)
  rw [Results.get_ok.2 hr, agentRules, hr]
  rfl

omit [Field R] [LinearOrder R] in
theorem missing_eq_nil_iff {results : Results R} {f : FusionResult R Uuid} :
    ((buildAgentContributions f).map Contribution.agentName).filter
        (fun name => (results name).isNone) = [] ↔
      ∀ c ∈ f.agentContributions, (results c.agentName).isSome := by
  rw [List.filter_eq_nil_iff, buildAgentContributions_names]
  simp [Option.isSome_iff_ne_none]

omit [Field R] [LinearOrder R] in
theorem buildRulesFired_eq {results : Results R} {f : FusionResult R Uuid}
    (h : ∀ c ∈ f.agentContributions, (results c.agentName).isSome) :
    buildRulesFired results f (buildAgentContributions f) tierBefore tierAfter =
      .ok (collected results f tierBefore tierAfter).eraseDups := by
  have hpresent : ∀ c ∈ buildAgentContributions f, (results c.agentName).isSome := by
    intro c hc
    have hname := List.mem_map_of_mem (f := Contribution.agentName) hc
    rw [buildAgentContributions_names, List.mem_eraseDups] at hname
    obtain ⟨c', hc', hname⟩ := List.mem_map.1 hname
    exact hname ▸ h c' hc'
  -- the names of the dict are those of the list, each once
  have hagents : ((buildAgentContributions f).map fun c =>
      agentRules results c.agentName).flatten.eraseDups = (f.agentContributions.flatMap fun c => agentRules results c.agentName).eraseDups := by
    have hnames : ((buildAgentContributions f).map fun c => agentRules results c.agentName) =
        ((buildAgentContributions f).map Contribution.agentName).map (agentRules results) := by
      rw [List.map_map]
      rfl
    rw [hnames, buildAgentContributions_names, ← List.flatMap_def,
      FirstOccurrence.eraseDups_flatMap_eraseDups, List.flatMap_map]
  have hmem : ∀ rule, rule ∈ ((buildAgentContributions f).map fun c =>
      agentRules results c.agentName).flatten ↔ rule ∈ f.agentContributions.flatMap fun c => agentRules results c.agentName := by
    intro rule
    rw [← List.mem_eraseDups, hagents, List.mem_eraseDups]
  unfold buildRulesFired collected
  rw [mapM_rules hpresent, Except.ok_bind, Except.pure_eq_ok, dedupePreservingOrder_eq,
    List.append_assoc, List.append_assoc, List.eraseDups_append, List.eraseDups_append, hagents]
  refine congrArg (fun rest => Except.ok (_ ++ List.eraseDups rest)) (List.filter_congr fun rule _ => ?_)
  simp only [List.elem_eq_mem, hmem]

omit [Field R] [LinearOrder R] in
/-- The justification is built when every contributing agent has a result. -/
theorem build_eq_ok_iff {results : Results R} {f : FusionResult R Uuid}
    {j : RiskAssessmentJustification R} :
    buildRiskAssessmentJustification results f tierBefore tierAfter = .ok j ↔
      (∀ c ∈ f.agentContributions, (results c.agentName).isSome) ∧
        j = ⟨justificationSchemaVersion, (collected results f tierBefore tierAfter).eraseDups,
          buildAgentContributions f, f.interactionBonusApplied, tierBefore, tierAfter⟩ := by
  unfold buildRiskAssessmentJustification
  dsimp only
  split
  case isTrue hmissing =>
    exact iff_of_false nofun fun h => hmissing (missing_eq_nil_iff.2 h.1)
  case isFalse hmissing =>
    have hall := missing_eq_nil_iff.1 (not_not.1 hmissing)
    rw [and_iff_right hall, buildRulesFired_eq hall]
    simp [eq_comm]

omit [Field R] [LinearOrder R] in
theorem build_eq_error_iff {results : Results R} {f : FusionResult R Uuid} :
    (∃ message, buildRiskAssessmentJustification results f tierBefore tierAfter =
      .error (.keyError message)) ↔ ∃ c ∈ f.agentContributions, results c.agentName = none := by
  have hnone : (∃ c ∈ f.agentContributions, results c.agentName = none) ↔
      ¬∀ c ∈ f.agentContributions, (results c.agentName).isSome := by
    simp
  rw [hnone]
  constructor
  · rintro ⟨message, h⟩ hall
    cases h.symm.trans (build_eq_ok_iff.2 ⟨hall, rfl⟩)
  · intro hall
    unfold buildRiskAssessmentJustification
    dsimp only
    rw [if_pos (mt missing_eq_nil_iff.1 hall)]
    exact ⟨_, rfl⟩

omit [Field R] [LinearOrder R] in
theorem aggregates_eraseDups (results : Results R) (f : FusionResult R Uuid)
    (tierBefore tierAfter : Tier) : Aggregates results f tierBefore tierAfter
      (collected results f tierBefore tierAfter).eraseDups := by
  refine ⟨FirstOccurrence.eraseDups_nodup _, fun rule => ?_, fun a ha b hb => ?_⟩
  · rw [List.mem_eraseDups, collected, List.append_assoc, List.mem_append, List.mem_append,
      List.mem_singleton, List.mem_flatMap]
    refine or_congr_left (exists_congr fun c => and_congr_right fun _ => ?_)
    unfold agentRules
    cases results c.agentName <;> simp
  · exact FirstOccurrence.idxOf_eraseDups (List.mem_eraseDups.1 ha) (List.mem_eraseDups.1 hb)

theorem isTierRule_transition (tierBefore tierAfter : Tier) :
    IsTierRule (determineTierTransitionRule tierBefore tierAfter) := by
  unfold IsTierRule
  cases tierBefore <;> cases tierAfter <;> decide

omit [Field R] [LinearOrder R] in
/-- The transition is new where neither the agents nor the fusion have a rule on the tier. -/
theorem endsInTransition_eraseDups {results : Results R} {f : FusionResult R Uuid}
    (hagents : ∀ c ∈ f.agentContributions, ∀ r ∈ results c.agentName,
      ∀ rule ∈ r.justification.rulesFired, ¬IsTierRule rule)
    (hfusion : ∀ rule ∈ f.rulesFired, ¬IsTierRule rule) :
    EndsInTransition tierBefore tierAfter
      (collected results f tierBefore tierAfter).eraseDups := by
  have hothers : ∀ rule ∈ (f.agentContributions.flatMap fun c =>
      agentRules results c.agentName) ++ f.rulesFired, ¬IsTierRule rule := by
    intro rule hrule
    rcases List.mem_append.1 hrule with hrule | hrule
    · obtain ⟨c, hc, hrule⟩ := List.mem_flatMap.1 hrule
      unfold agentRules at hrule
      cases hr : results c.agentName with
      | none =>
        rw [hr] at hrule
        cases hrule
      | some r =>
        rw [hr] at hrule
        exact hagents c hc r hr rule hrule
    · exact hfusion rule hrule
  have htransition := isTierRule_transition tierBefore tierAfter
  unfold collected
  rw [FirstOccurrence.eraseDups_concat, if_neg fun hmem => hothers _ hmem htransition]
  refine ⟨⟨_, _, rfl, htransition, fun r hr => hothers r (List.mem_eraseDups.1 hr)⟩, ?_, ?_, ?_⟩
  all_goals
    intro h
    rw [List.getLast?_concat, Option.some.injEq]
    cases tierBefore <;> cases tierAfter <;> first | rfl | exact absurd h (by decide)

/-- The rules of the fusion are its own. -/
theorem fuse_rulesFired {zoneId : Uuid} {simTime : Instant} {f : FusionResult R Uuid}
    (h : fuse zoneId simTime results config = .ok f) :
    ∀ rule ∈ f.rulesFired, rule = "weighted_sum_fusion" ∨ rule = "interaction_bonus_applied" := by
  obtain ⟨contributions, -, h⟩ := Except.bind_eq_ok.1 h
  obtain ⟨multiplier, -, h⟩ := Except.bind_eq_ok.1 h
  obtain ⟨confidence, -, h⟩ := Except.bind_eq_ok.1 h
  cases h
  intro rule hrule
  rcases List.mem_cons.1 hrule with rfl | hrule
  · exact .inl rfl
  · split at hrule
    · exact .inr (List.mem_singleton.1 hrule)
    · cases hrule

/-- **The rules of a tick**: each once, in the order of their first occurrence, with the transition at
the end of those of a fusion. They are missing iff an agent that contributed is. -/
theorem build_rulesFired (agentResults : Results R) (f : FusionResult R Uuid)
    (tierBefore tierAfter : Tier) :
    (∀ j, buildRiskAssessmentJustification agentResults f tierBefore tierAfter = .ok j →
      Aggregates agentResults f tierBefore tierAfter j.rulesFired ∧
        ((∀ c ∈ f.agentContributions, ∀ r ∈ agentResults c.agentName,
            ∀ rule ∈ r.justification.rulesFired, ¬IsTierRule rule) →
          (∃ results config, fuse f.zoneId f.simTime results config = .ok f) →
            EndsInTransition tierBefore tierAfter j.rulesFired)) ∧
      ((∃ j, buildRiskAssessmentJustification agentResults f tierBefore tierAfter = .ok j) ↔
        ∀ c ∈ f.agentContributions, (agentResults c.agentName).isSome) ∧
      ((∃ message, buildRiskAssessmentJustification agentResults f tierBefore tierAfter =
          .error (.keyError message)) ↔
        ∃ c ∈ f.agentContributions, agentResults c.agentName = none) := by
  refine ⟨fun j hj => ?_, ?_, build_eq_error_iff⟩
  · obtain ⟨-, rfl⟩ := build_eq_ok_iff.1 hj
    refine ⟨aggregates_eraseDups agentResults f tierBefore tierAfter, fun hagents hfused => ?_⟩
    obtain ⟨results, config, hfuse⟩ := hfused
    refine endsInTransition_eraseDups hagents fun rule hrule => ?_
    rcases fuse_rulesFired hfuse rule hrule with rfl | rfl <;>
      exact fun h => absurd h (by unfold IsTierRule; decide)
  · exact ⟨fun ⟨j, hj⟩ => (build_eq_ok_iff.1 hj).1, fun h => ⟨_, build_eq_ok_iff.2 ⟨h, rfl⟩⟩⟩

/-- Four agents above the floor, with one rule in common. -/
def fourAgents : Results ℚ := fun name =>
  some ⟨name, 50, 1, ⟨["saturating_threshold_function"], .lastKnown 0 0 0⟩, 0, 1⟩

theorem build_rulesFired_fourAgents : ∃ (f : FusionResult ℚ Unit) (j : RiskAssessmentJustification ℚ),
    fuse () 0 fourAgents FusionConfig.default = .ok f ∧
    buildRiskAssessmentJustification fourAgents f .normal .watch = .ok j ∧
    Aggregates fourAgents f .normal .watch j.rulesFired ∧
    EndsInTransition .normal .watch j.rulesFired ∧
    j.rulesFired = ["saturating_threshold_function", "weighted_sum_fusion", "interaction_bonus_applied",
      "tier_escalated"] := by
  have hok : (do
      let f ← fuse () 0 fourAgents FusionConfig.default
      let j ← buildRiskAssessmentJustification fourAgents f .normal .watch
      pure (f.simTime, j.rulesFired) : Result (Instant × List String)).toOption =
    some (0, ["saturating_threshold_function", "weighted_sum_fusion", "interaction_bonus_applied",
      "tier_escalated"]) := by decide +kernel
  obtain ⟨f, hf, hok⟩ := Except.bind_eq_ok.1 (Except.toOption_eq_some.1 hok)
  obtain ⟨j, hj, hok⟩ := Except.bind_eq_ok.1 hok
  obtain ⟨htime, hrules⟩ := Prod.mk.inj (Except.ok.inj hok)
  obtain ⟨haggregates, hends⟩ := (build_rulesFired fourAgents f .normal .watch).1 j hj
  refine ⟨f, j, hf, hj, haggregates, hends (fun c _ r hr rule hrule => ?_) ?_, hrules⟩
  · cases hr
    cases List.mem_singleton.1 hrule
    exact fun h => absurd h (by unfold IsTierRule; decide)
  · exact ⟨fourAgents, FusionConfig.default, by rw [htime]; exact hf⟩

end Justification
