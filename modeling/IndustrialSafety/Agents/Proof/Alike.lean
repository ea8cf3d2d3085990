import IndustrialSafety.Agents.PermitIntelligence
import IndustrialSafety.Agents.WorkerExposure
import IndustrialSafety.Orchestrator.Proof.Alike

/-!
# Agents on inputs that are read alike

* `PermitIntelligence.evaluate_alike`: the order of the permits is not read, and of the adjacent zones
  only the conflicts with the permits.
* `WorkerExposure.evaluate_alike`: of the upstream results only what `AgentResult.Alike` keeps is read.
-/

open Py List

/-- The largest element does not depend on the order. -/
theorem List.Perm.max?_eq {α : Type} [LinearOrder α] {l l' : List α} (h : l ~ l') :
    l.max? = l'.max? := by
  refine Option.ext fun a => ?_
  rw [max?_eq_some_iff, max?_eq_some_iff, h.mem_iff]
  simp only [h.mem_iff]

variable {R Uuid : Type} [Field R] [LinearOrder R] {input input' : AgentInput R Uuid}

namespace PermitIntelligence

variable {config : PermitReasoningConfig R}

omit [Field R] [LinearOrder R] in
variable (config) in
/-- The rule only depends on which decisions there are. -/
theorem buildJustification_perm {decisions decisions' : List (PermitDecision R Uuid)}
    (h : decisions ~ decisions') (feedStale : Bool) (gasRiskConfidence : R)
    (adjacentZonesProvided : Bool) :
    (buildJustification decisions' feedStale gasRiskConfidence adjacentZonesProvided config).rulesFired =
      (buildJustification decisions feedStale gasRiskConfidence adjacentZonesProvided config).rulesFired ∧
    decisions'.isEmpty = decisions.isEmpty := by
  have hempty : decisions'.isEmpty = decisions.isEmpty := h.symm.isEmpty_eq
  refine ⟨?_, hempty⟩
  unfold buildJustification
  dsimp only
  rw [hempty, h.symm.any_eq]

/-- The permits in another order, with adjacent zones that conflict with each permit in the same way. -/
theorem evaluate_alike (hup : input.upstreamResults.Alike input'.upstreamResults)
    (hpermits : input.context.permits.getD [] ~ input'.context.permits.getD [])
    (hfeed : input'.context.permitFeedStale = input.context.permitFeedStale)
    (hprovided : input'.context.adjacentZones.isSome = input.context.adjacentZones.isSome)
    (hconflicts : ∀ p ∈ input.context.permits.getD [],
      detectSimopsConflicts p.permitType (input'.context.adjacentZones.getD []) config =
        detectSimopsConflicts p.permitType (input.context.adjacentZones.getD []) config)
    (htime : input'.simTime = input.simTime) :
    Except.Related Except.AnyError AgentResult.Alike (evaluate config input)
      (evaluate config input') := by
  have hgas : Except.Related Except.AnyError AgentResult.Alike
      (input.upstreamResults.get "gas_risk") (input'.upstreamResults.get "gas_risk") :=
    (hup.get "gas_risk").mono (fun _ _ _ => trivial) fun _ _ => id
  refine Except.Related.bind hgas fun gasRisk gasRisk' _ _ halike => ?_
  dsimp only
  rw [hfeed, hprovided, htime, halike.risk, halike.confidence]
  have hopen := hpermits.filter (·.status ≠ .closed)
  have hdecide : ∀ p ∈ (input'.context.permits.getD []).filter (·.status ≠ .closed),
      decidePermit (input.context.permitFeedStale.getD false) gasRisk.risk
        (input'.context.adjacentZones.getD []) config p =
      decidePermit (input.context.permitFeedStale.getD false) gasRisk.risk
        (input.context.adjacentZones.getD []) config p := by
    intro p hp
    have hp := hpermits.mem_iff.2 (List.mem_of_mem_filter hp)
    unfold decidePermit
    dsimp only
    rw [hconflicts p hp]
  rw [Except.mapM_congr hdecide]
  refine Except.Related.bind (Except.Related.mapM_perm hopen) fun decisions decisions' _ _ hd => ?_
  refine Except.Related.bind (Except.Related.mapM_perm hd) fun risks risks' _ _ hr => ?_
  obtain ⟨hrules, hempty⟩ := buildJustification_perm config hd
    (input.context.permitFeedStale.getD false) gasRisk.confidence input.context.adjacentZones.isSome
  refine .ok ⟨?_, rfl, hrules, ?_, rfl⟩
  · simp only [hr.max?_eq]
  · simpa [buildJustification, Evidence.decisions] using hempty

end PermitIntelligence

namespace WorkerExposure

variable {M : Math R} {config : WorkerExposureConfig R}

theorem evaluate_alike (hup : input.upstreamResults.Alike input'.upstreamResults)
    (hcontext : input'.context = input.context) (htime : input'.simTime = input.simTime) :
    Except.Related Except.AnyError AgentResult.Alike (evaluate M config input)
      (evaluate M config input') := by
  have hgas : Except.Related Except.AnyError AgentResult.Alike
      (input.upstreamResults.get "gas_risk") (input'.upstreamResults.get "gas_risk") :=
    (hup.get "gas_risk").mono (fun _ _ _ => trivial) fun _ _ => id
  refine Except.Related.bind hgas fun gasRisk gasRisk' _ _ halike => ?_
  dsimp only
  rw [hcontext, htime, halike.risk]
  exact .ok (.refl _)

end WorkerExposure
