import IndustrialSafety.Lib.Related
import IndustrialSafety.Orchestrator.Justification
import IndustrialSafety.Orchestrator.Scheduler

/-!
# Results that are read alike

Of the evidence of a result nothing is read but whether it lists a decision. `AgentResult.Alike`: what is
read of two results is the same. The scheduler (`Scheduler.runLevels_alike`), the fusion
(`RiskFormula.fuse_alike`) and the justification (`Justification.build_alike`) do not tell such results
apart.
-/

open Py

variable {R Uuid : Type} [Field R] [LinearOrder R]

/-- What is read of the results is the same. -/
structure AgentResult.Alike (r r' : AgentResult R) : Prop where
  risk : r'.risk = r.risk
  confidence : r'.confidence = r.confidence
  rulesFired : r'.justification.rulesFired = r.justification.rulesFired
  decisions : r'.justification.evidence.decisions.isEmpty =
    r.justification.evidence.decisions.isEmpty
  computedAt : r'.computedAt = r.computedAt

omit [Field R] [LinearOrder R] in
theorem AgentResult.Alike.refl (r : AgentResult R) : r.Alike r := ⟨rfl, rfl, rfl, rfl, rfl⟩

def Results.Alike (results results' : Results R) : Prop :=
  ∀ name, Option.Rel AgentResult.Alike (results name) (results' name)

omit [Field R] [LinearOrder R] in
theorem Results.Alike.refl (results : Results R) : results.Alike results := by
  intro name
  cases results name with
  | none => exact .none
  | some r => exact .some (.refl r)

section
variable {results results' : Results R} {r r' : AgentResult R}

omit [Field R] [LinearOrder R] in
theorem Results.Alike.update (h : results.Alike results') (name : String) (hr : r.Alike r') :
    Results.Alike (Function.update results name (some r))
      (Function.update results' name (some r')) := by
  intro n
  by_cases hn : n = name
  · subst hn
    rw [Function.update_self, Function.update_self]
    exact .some hr
  · rw [Function.update_of_ne hn, Function.update_of_ne hn]
    exact h n

omit [Field R] [LinearOrder R] in
theorem Results.Alike.none_or_some (h : results.Alike results') (name : String) :
    (results name = none ∧ results' name = none) ∨
      ∃ r r', results name = some r ∧ results' name = some r' ∧ r.Alike r' := by
  have hname := h name
  revert hname
  generalize results name = r
  generalize results' name = r'
  intro hname
  cases hname with
  | none => exact .inl ⟨rfl, rfl⟩
  | some h => exact .inr ⟨_, _, rfl, rfl, h⟩

omit [Field R] [LinearOrder R] in
theorem Results.Alike.get (h : results.Alike results') (name : String) :
    Except.Related Eq AgentResult.Alike (results.get name) (results'.get name) := by
  unfold Results.get
  rcases h.none_or_some name with ⟨hn, hn'⟩ | ⟨r, r', hr, hr', halike⟩
  · rw [hn, hn']
    exact .error rfl
  · rw [hr, hr']
    exact .ok halike

omit [Field R] [LinearOrder R] in
theorem Results.Alike.isNone (h : results.Alike results') (name : String) :
    (results' name).isNone = (results name).isNone := by
  rcases h.none_or_some name with ⟨hn, hn'⟩ | ⟨r, r', hr, hr', -⟩
  · rw [hn, hn']
  · rw [hr, hr']
    rfl

end

/-! ## The scheduler -/

namespace Scheduler

def AgentCache.Alike (cache cache' : AgentCache R) : Prop :=
  Results.Alike cache.lastKnownResults cache'.lastKnownResults

variable {M : Math R} {config : SchedulerConfig R} {zoneId : Uuid} {simTime : Instant}
  {tickId : Nat} {results results' : Results R} {cache cache' : AgentCache R}

/-- Outcomes of one agent: alike, or both raised. -/
def SameOutcome (o o' : String × Result (AgentResult R)) : Prop :=
  o'.1 = o.1 ∧ Except.Related Except.AnyError AgentResult.Alike o.2 o'.2

theorem decay_alike {r r' : AgentResult R} (h : r.Alike r') :
    (decayConfidenceForStaleness M r simTime config).Alike
      (decayConfidenceForStaleness M r' simTime config) := by
  refine ⟨h.risk, ?_, rfl, rfl, rfl⟩
  simp only [decayConfidenceForStaleness, h.confidence, h.computedAt]

theorem settle_alike {outcomes outcomes' : List (String × Result (AgentResult R))}
    (ho : List.Forall₂ SameOutcome outcomes outcomes') (hr : results.Alike results')
    (hc : cache.Alike cache') :
    Except.Related Eq (fun p p' => p.1.Alike p'.1 ∧ p.2.Alike p'.2)
      (settle M simTime config outcomes results cache)
      (settle M simTime config outcomes' results' cache') := by
  induction ho generalizing results results' cache cache' with
  | nil => exact .ok ⟨hr, hc⟩
  | @cons o o' outcomes outcomes' h _ ih =>
    obtain ⟨name, outcome⟩ := o
    obtain ⟨name', outcome'⟩ := o'
    obtain ⟨hname, h⟩ := h
    cases hname
    cases h with
    | ok h => exact ih (hr.update name h) (hc.update name h)
    | error _ =>
      simp only [settle]
      -- both agents raised: their last known results are alike, or both have none
      rcases hc.none_or_some name with ⟨hn, hn'⟩ | ⟨r, r', hlast, hlast', halike⟩
      · rw [hn, hn']
        exact .error rfl
      · rw [hlast, hlast']
        exact ih (hr.update name (decay_alike halike)) hc

/-- The builders give the agent inputs on which its outcomes are alike. -/
def SameBuilt (zoneId : Uuid) (simTime : Instant) (tickId : Nat)
    (builders builders' : ContextBuilders R Uuid) (agent : Agent R Uuid) : Prop :=
  Option.Rel (fun builder builder' => ∀ results results' : Results R, results.Alike results' →
    Except.Related Except.AnyError AgentResult.Alike
      (runAgent agent zoneId simTime tickId builder results)
      (runAgent agent zoneId simTime tickId builder' results'))
    (builders agent.name) (builders' agent.name)

variable {builders builders' : ContextBuilders R Uuid}

omit [Field R] [LinearOrder R] in
theorem gather_alike {level : ExecutionLevel R Uuid}
    (h : ∀ agent ∈ level.agents, SameBuilt zoneId simTime tickId builders builders' agent)
    (hr : results.Alike results') :
    Except.Related Eq (List.Forall₂ SameOutcome)
      (gather zoneId simTime tickId builders results level)
      (gather zoneId simTime tickId builders' results' level) := by
  refine Except.Related.mapM fun agent hagent => ?_
  have hbuilt := h agent hagent
  unfold SameBuilt at hbuilt
  cases hb : builders agent.name with
  | none =>
    rw [hb] at hbuilt
    generalize builders' agent.name = b' at hbuilt
    cases hbuilt
    exact .error rfl
  | some b =>
    rw [hb] at hbuilt
    generalize builders' agent.name = b' at hbuilt
    cases hbuilt with
    | some hbuilt => exact .ok ⟨rfl, hbuilt _ _ hr⟩

/-- Alike inputs give alike results and caches, or the same exception. -/
theorem runLevels_alike {levels : List (ExecutionLevel R Uuid)}
    (h : ∀ level ∈ levels, ∀ agent ∈ level.agents,
      SameBuilt zoneId simTime tickId builders builders' agent)
    (hr : results.Alike results') (hc : cache.Alike cache') :
    Except.Related Eq (fun p p' => p.1.Alike p'.1 ∧ p.2.Alike p'.2)
      (runLevels M zoneId simTime tickId builders config levels results cache)
      (runLevels M zoneId simTime tickId builders' config levels results' cache') := by
  induction levels generalizing results results' cache cache' with
  | nil => exact .ok ⟨hr, hc⟩
  | cons level levels ih =>
    refine Except.Related.bind (gather_alike (h level (by simp)) hr) fun outcomes outcomes' _ _ ho => ?_
    refine Except.Related.bind (settle_alike ho hr hc) fun p p' _ _ hp => ?_
    exact ih (fun level hlevel => h level (by simp [hlevel])) hp.1 hp.2

end Scheduler

/-! ## The fusion and the justification -/

namespace RiskFormula

variable {results results' : Results R}

theorem contributions_alike (h : results.Alike results') (config : FusionConfig R) :
    calculateAgentContributions results' config = calculateAgentContributions results config := by
  refine Except.mapM_congr fun p _ => ?_
  obtain ⟨name, weight⟩ := p
  dsimp only
  unfold Results.get
  rcases h.none_or_some name with ⟨hn, hn'⟩ | ⟨r, r', hr, hr', halike⟩
  · rw [hn, hn']
  · simp [hr, hr', halike.risk, halike.confidence]

omit [Field R] [LinearOrder R] in
/-- The results of the weighted agents are alike. -/
theorem weighted_alike (h : results.Alike results') (weights : List (String × R)) :
    Except.Related Eq (List.Forall₂ AgentResult.Alike)
      (weights.mapM fun (name, _) => results.get name)
      (weights.mapM fun (name, _) => results'.get name) :=
  Except.Related.mapM fun p _ => h.get p.1

omit [Field R] [LinearOrder R] in
theorem alike_columns {rs rs' : List (AgentResult R)} (h : List.Forall₂ AgentResult.Alike rs rs') :
    rs'.map AgentResult.risk = rs.map AgentResult.risk ∧
      rs'.map AgentResult.confidence = rs.map AgentResult.confidence := by
  induction h with
  | nil => exact ⟨rfl, rfl⟩
  | cons hr _ ih => simp [ih.1, ih.2, hr.risk, hr.confidence]

theorem fuse_alike (h : results.Alike results') (zoneId : Uuid) (simTime : Instant)
    (config : FusionConfig R) : (fuse zoneId simTime results' config : Result (FusionResult R Uuid)) =
      fuse zoneId simTime results config := by
  have hmultiplier : calculateInteractionMultiplier results' config =
      calculateInteractionMultiplier results config := by
    refine (Except.Related.eq (Except.Related.bind (weighted_alike h _) fun rs rs' _ _ hrs => ?_)).symm
    have hcount := congrArg (List.countP fun x => config.elevatedFloor ≤ x) (alike_columns hrs).1
    rw [List.countP_map, List.countP_map] at hcount
    simp only [Function.comp_def] at hcount
    dsimp only
    rw [hcount]
    exact .ok rfl
  have hconfidence : calculateCompoundConfidence results' config =
      calculateCompoundConfidence results config := by
    refine (Except.Related.eq (Except.Related.bind (weighted_alike h _) fun rs rs' _ _ hrs => ?_)).symm
    rw [(alike_columns hrs).2]
    exact .refl (fun _ => rfl) _
  unfold fuse
  simp only [contributions_alike h, hmultiplier, hconfidence]

end RiskFormula

namespace Justification

open RiskFormula

omit [Field R] [LinearOrder R] in
theorem build_alike {results results' : Results R} (h : results.Alike results')
    (fusionResult : FusionResult R Uuid) (tierBefore tierAfter : Tier) :
    buildRiskAssessmentJustification results' fusionResult tierBefore tierAfter =
      buildRiskAssessmentJustification results fusionResult tierBefore tierAfter := by
  have hrules : buildRulesFired results' fusionResult (buildAgentContributions fusionResult)
      tierBefore tierAfter = buildRulesFired results fusionResult
        (buildAgentContributions fusionResult) tierBefore tierAfter := by
    unfold buildRulesFired
    have hfired : ∀ c ∈ buildAgentContributions fusionResult,
        (do let r ← results'.get c.agentName; pure r.justification.rulesFired : Result _) =
          (do let r ← results.get c.agentName; pure r.justification.rulesFired) := by
      intro c _
      unfold Results.get
      rcases h.none_or_some c.agentName with ⟨hn, hn'⟩ | ⟨r, r', hr, hr', halike⟩
      · rw [hn, hn']
      · simp [hr, hr', halike.rulesFired]
    rw [Except.mapM_congr hfired]
  unfold buildRiskAssessmentJustification
  simp only [h.isNone, hrules]

end Justification
