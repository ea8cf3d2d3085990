import IndustrialSafety.Db.Proof.Repositories
import IndustrialSafety.Services.Proof.Engine
import IndustrialSafety.Services.RiskPipeline

/-!
# One tick of the pipeline

* `evaluateTick_ok`: what a tick computes is the scheduler's, the fusion's and the tiering's.
* `runZoneTick_effect`: a tick persists the assessment it computed, whether it returns or not.
* `runZoneTick_ok`: a tick that returns, returns what it computed and has persisted it.
-/

namespace RiskPipeline

open Py Scheduler RiskFormula Tiering

variable {R Uuid : Type} [Field R] [LinearOrder R] [DecidableEq Uuid]

/-- The scheduler call of a tick. -/
def zoneCall (M : Math R) (T : Text R Uuid) (db : Db R Uuid) (zoneId : Uuid) (gasType : String)
    (simTime : Instant) (tickId : Nat) : Call R Uuid where
  plan := executionPlan M
  zoneId := zoneId
  simTime := simTime
  tickId := tickId
  contextBuilders := buildContextBuilders T db gasType

section
variable {M : Math R} {T : Text R Uuid} {db db' : Db R Uuid} {zoneId : Uuid} {gasType : String}
  {tickId : Nat} {cache : AgentCache R} {tierState : TierState R}

theorem zoneCall_built {simTime : Instant} :
    (zoneCall M T db zoneId gasType simTime tickId).Built
      (zoneCall M T db zoneId gasType simTime tickId).plan.levels := by
  intro name hname
  change name ∈ names (executionPlan M : ExecutionPlan R Uuid).levels at hname
  rw [names_executionPlan] at hname
  simp only [List.mem_cons, List.not_mem_nil, or_false] at hname
  rcases hname with rfl | rfl | rfl | rfl <;> rfl

/-- The results of a tick: the four agents' own outcomes have `P` and may be cached (`Q`), the stand-ins
of cached results have `P`. -/
theorem zoneCall_all {P Q : AgentResult R → Prop} {simTime : Instant} {results : Results R}
    {cache' : AgentCache R}
    (hdecay : ∀ r, Q r → P (decayConfidenceForStaleness M r simTime (schedulerConfig M)))
    (hown : ∀ a ∈ [GasRisk.agent M, EquipmentStatus.agent M, PermitIntelligence.agent,
      WorkerExposure.agent M], ∀ seen : Results R, Results.All P seen →
        ∀ r, (zoneCall M T db zoneId gasType simTime tickId).outcome seen a = .ok r → P r ∧ Q r)
    (hcache : Results.All Q cache.lastKnownResults)
    (h : (zoneCall M T db zoneId gasType simTime tickId).run M (schedulerConfig M) cache =
      .ok (results, cache')) :
    Results.All P results ∧ Results.All Q cache'.lastKnownResults := by
  refine runLevels_all zoneCall_built hdecay (fun level hl a ha => hown a ?_)
    (fun _ _ hr => by cases hr) hcache h
  simp only [zoneCall, executionPlan, buildDefaultExecutionPlan, List.mem_cons, List.not_mem_nil,
    or_false] at hl
  rcases hl with rfl | rfl | rfl <;> simp only [List.mem_cons, List.not_mem_nil, or_false] at ha ⊢ <;>
    tauto

omit [Field R] [LinearOrder R] [DecidableEq Uuid] in
theorem toPermitRecord_ok {row : Permit R Uuid} {permit : PermitRecord R Uuid}
    (h : ContextBuilders.toPermitRecord T row = .ok permit) :
    permit.identifier = T.uuidStr row.permitId ∧ permit.status = row.status := by
  obtain ⟨baseline, -, h⟩ := Except.bind_eq_ok.1 h
  cases h
  exact ⟨rfl, rfl⟩

variable [IsStrictOrderedRing R] {simTime : DateTime} {e : Evaluation R Uuid}

/-- What a tick computes. -/
structure Computed (M : Math R) (T : Text R Uuid) (db : Db R Uuid) (zoneId : Uuid)
    (gasType : String) (simTime : DateTime) (tickId : Nat) (cache : AgentCache R)
    (tierState : TierState R) (e : Evaluation R Uuid) (f : FusionResult R Uuid) : Prop where
  run : (zoneCall M T db zoneId gasType simTime.instant tickId).run M (schedulerConfig M) cache =
    .ok (e.agentResults, e.cache)
  fuse : fuse zoneId simTime.instant e.agentResults fusionConfig = .ok f
  tierState : e.tierState = transition tierState f tieringConfig
  assessmentId : e.assessment.assessmentId = deriveAssessmentId T zoneId simTime
  zoneId : e.assessment.zoneId = zoneId
  timestamp : e.assessment.timestamp = simTime.instant
  score : e.assessment.compoundRiskScore = f.compoundRiskScore
  confidence : e.assessment.confidence = f.confidence
  tier : e.assessment.tier = e.tierState.currentTier

theorem evaluateTick_ok
    (h : evaluateTick M T db zoneId gasType simTime tickId cache tierState = .ok e) :
    ∃ f, Computed M T db zoneId gasType simTime tickId cache tierState e f := by
  obtain ⟨⟨results, cache'⟩, hrun, h⟩ := Except.bind_eq_ok.1 h
  obtain ⟨f, hf, h⟩ := Except.bind_eq_ok.1 h
  obtain ⟨justification, -, h⟩ := Except.bind_eq_ok.1 h
  cases h
  exact ⟨f, hrun, hf, rfl, rfl, rfl, rfl, rfl, rfl, rfl⟩

/-- The justification of a tick is built from its results. -/
theorem evaluateTick_justification
    (h : evaluateTick M T db zoneId gasType simTime tickId cache tierState = .ok e)
    {f : FusionResult R Uuid} (hf : RiskFormula.fuse zoneId simTime.instant e.agentResults
      fusionConfig = .ok f) :
    Justification.buildRiskAssessmentJustification e.agentResults f tierState.currentTier
      e.tierState.currentTier = .ok e.assessment.justification := by
  obtain ⟨⟨results, cache'⟩, hrun, h⟩ := Except.bind_eq_ok.1 h
  obtain ⟨f', hf', h⟩ := Except.bind_eq_ok.1 h
  obtain ⟨justification, hj, h⟩ := Except.bind_eq_ok.1 h
  cases h
  cases hf.symm.trans hf'
  exact hj

/-! ## The effect of a tick -/

/-- `db` with an assessment persisted. -/
def persist (db : Db R Uuid) (a : RiskAssessment R Uuid) : Db R Uuid :=
  { db with riskAssessments := db.riskAssessments.upsert a }

/-- The first transaction of a tick. -/
theorem persistTick_eq_ok {db' : Db R Uuid} :
    (do
      let db ← get
      let evaluation ← evaluateTick M T db zoneId gasType simTime tickId cache tierState
      let _ ← RiskAssessmentRepository.create evaluation.assessment
      pure evaluation : Session R Uuid (Evaluation R Uuid)) db = .ok (e, db') ↔
    evaluateTick M T db zoneId gasType simTime tickId cache tierState = .ok e ∧
      (db.zones.get? zoneId).isSome ∧ db' = persist db e.assessment := by
  rw [Transaction.get_bind, Transaction.lift_bind_eq_ok]
  constructor
  · rintro ⟨e', he, h⟩
    obtain ⟨a, db₁, hcreate, h⟩ := Transaction.bind_eq_ok.1 h
    obtain ⟨hzone, -, rfl⟩ := RiskAssessmentRepository.create_eq_ok.1 hcreate
    cases h
    obtain ⟨f, hc⟩ := evaluateTick_ok he
    exact ⟨he, hc.zoneId ▸ hzone, rfl⟩
  · rintro ⟨he, hzone, rfl⟩
    obtain ⟨f, hc⟩ := evaluateTick_ok he
    refine ⟨e, he, Transaction.bind_eq_ok.2 ⟨e.assessment, _, ?_, rfl⟩⟩
    exact RiskAssessmentRepository.create_eq_ok.2 ⟨hc.zoneId ▸ hzone, rfl, rfl⟩

theorem runZoneTick_ok {result : RiskPipelineResult R Uuid}
    (h : runZoneTick M T zoneId gasType simTime tickId cache tierState db = (.ok result, db')) :
    ∃ e, evaluateTick M T db zoneId gasType simTime tickId cache tierState = .ok e ∧
      db' = persist db e.assessment ∧ result.assessment = e.assessment ∧ result.cache = e.cache ∧
        result.tierState = e.tierState := by
  obtain ⟨e, db₁, h₁, h⟩ := Service.bind_eq_ok.1 h
  obtain ⟨he, -, rfl⟩ := persistTick_eq_ok.1 (Service.transaction_eq_ok.1 h₁)
  obtain ⟨readings, db₂, h₂, h⟩ := Service.bind_eq_ok.1 h
  have h₂ := Service.transaction_eq_ok.1 h₂
  rw [Transaction.get_bind] at h₂
  cases h₂
  obtain ⟨counterfactual, db₃, h₃, h⟩ := Service.bind_eq_ok.1 h
  obtain ⟨-, rfl⟩ := Service.lift_eq_ok.1 h₃
  cases h
  exact ⟨e, he, rfl, rfl, rfl, rfl⟩

/-- The assessment that a tick persists, if it computes one. -/
def tickRow (M : Math R) (T : Text R Uuid) (db : Db R Uuid) (zoneId : Uuid) (gasType : String)
    (simTime : DateTime) (tickId : Nat) (cache : AgentCache R) (tierState : TierState R) :
    Option (RiskAssessment R Uuid) :=
  if (db.zones.get? zoneId).isSome then
    (evaluateTick M T db zoneId gasType simTime tickId cache tierState).toOption.map
      Evaluation.assessment
  else none

/-- A tick persists the assessment it computed and nothing else, whether it returns or raises. -/
theorem runZoneTick_effect (M : Math R) (T : Text R Uuid) (zoneId : Uuid) (gasType : String)
    (simTime : DateTime) (tickId : Nat) (cache : AgentCache R) (tierState : TierState R)
    (db : Db R Uuid) :
    (runZoneTick M T zoneId gasType simTime tickId cache tierState db).2 =
      (tickRow M T db zoneId gasType simTime tickId cache tierState).elim db (persist db) := by
  unfold runZoneTick
  rw [Service.bind_apply, Service.transaction]
  split
  · rename_i e db₁ h
    split at h
    · rename_i p hp
      cases h
      obtain ⟨he, hzone, hdb⟩ := persistTick_eq_ok.1 hp
      -- the comparator writes nothing
      have hclosed : Closed fun α (m : Service Exc (Db R Uuid) α) => Service.Across (Keeps id) m :=
        Service.closed_across
      refine Eq.trans (hclosed.bind (Service.across_transaction ?_) (fun _ =>
        hclosed.bind (Service.across_lift _) fun _ => hclosed.pure _) db₁) ?_
      · exact Transaction.across_get_bind fun _ => Transaction.closed_across.pure _
      · rw [tickRow, if_pos hzone, he]
        exact hdb
    · cases h
  · rename_i h
    split at h
    · cases h
    · rename_i e' hbody
      cases h
      have hnone : tickRow M T db zoneId gasType simTime tickId cache tierState = none := by
        rw [tickRow]
        split
        · rename_i hzone
          cases he : evaluateTick M T db zoneId gasType simTime tickId cache tierState with
          | error => rfl
          | ok e => cases hbody.symm.trans (persistTick_eq_ok.2 ⟨he, hzone, rfl⟩)
        · rfl
      rw [hnone]
      rfl

end

end RiskPipeline
