import IndustrialSafety.Db.Proof.Constraints
import IndustrialSafety.Orchestrator.Proof.Justification
import IndustrialSafety.Services.Proof.Comparator
import IndustrialSafety.Services.Proof.Issuance

/-!
# Ticks that return

The first tick of a zone with a sensor returns iff the comparator accepts the latest reading, the
baselines of the zone's open permits can be read and the statuses of its equipment are known
(`tick_returns_iff`). Ticks only write assessments, so the groups of a run return iff each does on its own
(`runGroups_returns_iff`).
-/

namespace RiskPipeline

open Py Scheduler RiskFormula Tiering SimulationRunner

variable {R Uuid : Type} [Field R] [LinearOrder R] [DecidableEq Uuid]

/-- The zone and its sensor of the gas are there. -/
structure Monitored (db : Db R Uuid) (zoneId : Uuid) (gasType : String) : Prop where
  zone : (db.zones.get? zoneId).isSome
  sensor : (SensorRepository.getByZoneAndGas db zoneId gasType).isSome

/-- The comparator accepts the latest reading, the open permits have readable baselines, and the statuses
of the equipment are known. -/
structure Operable (T : Text R Uuid) (db : Db R Uuid) (zoneId : Uuid) (gasType : String) : Prop where
  comparator : ComparatorAccepts db zoneId gasType none
  permits : ∃ permits, (PermitRepository.listOpenByZone db zoneId).mapM
    (ContextBuilders.toPermitRecord T) = .ok permits
  equipment : ∀ e ∈ EquipmentRepository.listByZone db zoneId,
    e.isolationStatus ∈ EquipmentStatus.knownIsolationStatuses

section
variable {M : Math R} {T : Text R Uuid} {db : Db R Uuid} {zoneId : Uuid} {gasType : String}
  {tickId : Nat} {cache : AgentCache R} {tierState : TierState R}

omit [Field R] [LinearOrder R] [DecidableEq Uuid] in
theorem calculateDegradedGroups_total_iff {equipment : List EquipmentRecord} :
    (∃ groups, EquipmentStatus.calculateDegradedGroups equipment = .ok groups) ↔
      ∀ e ∈ equipment, e.isolationStatus ∈ EquipmentStatus.knownIsolationStatuses := by
  have hknown : ∀ e : EquipmentRecord, (∃ degraded, EquipmentStatus.isDegraded e = .ok degraded) ↔
      e.isolationStatus ∈ EquipmentStatus.knownIsolationStatuses := by
    intro e
    unfold EquipmentStatus.isDegraded
    split
    · rename_i hnot
      exact iff_of_false nofun hnot
    · rename_i hmem
      exact iff_of_true ⟨_, rfl⟩ (not_not.1 hmem)
  induction equipment with
  | nil => exact iff_of_true ⟨∅, rfl⟩ nofun
  | cons e es ih =>
    rw [List.forall_mem_cons, ← hknown]
    refine Iff.trans ⟨?_, ?_⟩ (and_congr_right' ih)
    · rintro ⟨groups, h⟩
      obtain ⟨degraded, hdegraded, h⟩ := Except.bind_eq_ok.1 h
      obtain ⟨rest, hrest, -⟩ := Except.bind_eq_ok.1 h
      exact ⟨⟨degraded, hdegraded⟩, rest, hrest⟩
    · rintro ⟨hdegraded, hrest⟩
      exact Except.bind_total hdegraded fun _ _ => Except.bind_total hrest fun _ _ => ⟨_, rfl⟩

/-- Gas Risk returns: there is nothing to divide, or the threshold is positive. -/
theorem gasRisk_total {sensor : Sensor R Uuid}
    (hsensor : SensorRepository.getByZoneAndGas db zoneId gasType = some sensor)
    (ho : Operable T db zoneId gasType) (simTime : Instant) (tickId : Nat) (seen : Results R) :
    ∃ r, GasRisk.evaluate M (GasRisk.GasRiskConfig.default M)
      (inputAt db zoneId gasType sensor simTime tickId seen) = .ok r := by
  have hmin : 0 < (GasRisk.GasRiskConfig.default M).minReadingsForRegression := by
    simp [GasRisk.GasRiskConfig.default]
  cases hwindow : (window db zoneId gasType simTime).getLast? with
  | none =>
    obtain ⟨r, hr, -⟩ : ∃ r, GasRisk.evaluate M _ (inputAt db zoneId gasType sensor simTime tickId seen) =
        .ok r ∧ _ := GasRisk.evaluate_of_risk rfl hmin (GasRisk.calculateRisk_ok.2 (.inl ⟨hwindow, rfl⟩))
    exact ⟨r, hr⟩
  | some reading =>
    obtain ⟨row, hrow, -⟩ := List.mem_map.1 (List.mem_of_getLast? hwindow)
    have hmem := List.mem_filter.1 (Query.mem_of_mem_recent hrow)
    have hlatest : (SensorReadingRepository.latest db zoneId gasType).isSome :=
      Query.latest_isSome (List.mem_filter.2 ⟨hmem.1, by simp_all⟩)
    obtain ⟨latest, hlatest⟩ := Option.isSome_iff_exists.1 hlatest
    exact GasRisk.evaluate_total rfl (ho.comparator sensor hsensor latest hlatest).1.ne' hmin

/-- No agent of an operable zone fails. -/
theorem zoneCall_outcome_total {simTime : Instant} (hm : Monitored db zoneId gasType)
    (ho : Operable T db zoneId gasType) {seen : Results R} {a : Agent R Uuid}
    {pre post : List (ExecutionLevel R Uuid)} {level : ExecutionLevel R Uuid}
    (heq : (executionPlan M : ExecutionPlan R Uuid).levels = pre ++ level :: post)
    (ha : a ∈ level.agents) (hseen : pre ≠ [] → ∃ g, seen "gas_risk" = some g) :
    ∃ r, (zoneCall M T db zoneId gasType simTime tickId).outcome seen a = .ok r := by
  match pre with
  | [] =>
    obtain ⟨rfl, -⟩ := List.cons.inj heq
    simp only [List.mem_cons, List.not_mem_nil, or_false] at ha
    rcases ha with rfl | rfl
    · obtain ⟨sensor, hsensor⟩ := Option.isSome_iff_exists.1 hm.sensor
      have hbuilder : ContextBuilders.makeGasRiskContextBuilder T db gasType
          ContextBuilders.defaultReadingWindow zoneId simTime tickId seen =
          .ok (inputAt db zoneId gasType sensor simTime tickId seen) := inputAt_built hsensor _ _ _
      refine Except.bind_total ⟨_, hbuilder⟩ fun input hinput => ?_
      cases hbuilder.symm.trans hinput
      exact gasRisk_total hsensor ho simTime tickId seen
    · refine Except.bind_total ⟨_, rfl⟩ fun input hinput => ?_
      cases hinput
      refine Except.bind_total (calculateDegradedGroups_total_iff.2 fun e he => ?_) fun _ _ => ⟨_, rfl⟩
      obtain ⟨row, hrow, rfl⟩ := List.mem_map.1 he
      exact ho.equipment row hrow
  | [_] =>
    obtain ⟨g, hg⟩ := hseen (by simp)
    obtain ⟨-, heq⟩ := List.cons.inj heq
    obtain ⟨rfl, -⟩ := List.cons.inj heq
    cases List.mem_singleton.1 ha
    obtain ⟨permits, hpermits⟩ := ho.permits
    refine Except.bind_total (Except.bind_total ⟨permits, hpermits⟩ fun _ _ => ⟨_, rfl⟩)
      fun input hinput => ?_
    obtain ⟨permits, -, hinput⟩ := Except.bind_eq_ok.1 hinput
    cases hinput
    exact PermitIntelligence.evaluate_total hg
  | [_, _] =>
    obtain ⟨g, hg⟩ := hseen (by simp)
    obtain ⟨-, heq⟩ := List.cons.inj heq
    obtain ⟨-, heq⟩ := List.cons.inj heq
    obtain ⟨rfl, -⟩ := List.cons.inj heq
    cases List.mem_singleton.1 ha
    refine Except.bind_total ⟨_, rfl⟩ fun input hinput => ?_
    cases hinput
    exact WorkerExposure.evaluate_total hg
  | _ :: _ :: _ :: _ =>
    have := congrArg List.length heq
    simp [executionPlan, buildDefaultExecutionPlan] at this

variable [IsStrictOrderedRing R] {simTime : DateTime}

/-- A tick of an operable zone computes an assessment. -/
theorem evaluateTick_total (hm : Monitored db zoneId gasType) (ho : Operable T db zoneId gasType) :
    ∃ e, evaluateTick M T db zoneId gasType simTime tickId cache tierState = .ok e := by
  obtain ⟨⟨results, cache'⟩, hrun⟩ : ∃ p, (zoneCall M T db zoneId gasType simTime.instant tickId).run M
      (schedulerConfig M) cache = .ok p :=
    run_returns rfl zoneCall_built
      (fun _ _ _ _ _ heq ha hseen => zoneCall_outcome_total hm ho heq ha hseen) _
  obtain ⟨g, e, p, w, hfour⟩ := run_fourResults rfl zoneCall_built hrun
  obtain ⟨f, hf, hfused⟩ := hfour.fuse zoneId simTime.instant
  obtain ⟨j, hj, -⟩ := Justification.build_ok hfour.weights hfused
  exact ⟨_, Except.bind_eq_ok.2 ⟨_, hrun, Except.bind_eq_ok.2 ⟨f, hf, Except.bind_eq_ok.2 ⟨j, hj, rfl⟩⟩⟩⟩

/-- With an empty cache the permits' builder has to return. -/
theorem permits_of_evaluateTick {e : Evaluation R Uuid}
    (h : evaluateTick M T db zoneId gasType simTime tickId {} tierState = .ok e) :
    ∃ permits, (PermitRepository.listOpenByZone db zoneId).mapM
      (ContextBuilders.toPermitRecord T) = .ok permits := by
  obtain ⟨f, hc⟩ := evaluateTick_ok h
  have hs := runLevels_ok executionPlan_nodup zoneCall_built hc.run
  obtain ⟨r, s, -, -, hset⟩ := hs.settled [_] _ _ rfl PermitIntelligence.agent (by simp)
  rcases hset.own_or_cached with hown | ⟨c, hcached, -⟩
  · obtain ⟨input, hinput, -⟩ := Except.bind_eq_ok.1 hown
    obtain ⟨permits, hpermits, -⟩ := Except.bind_eq_ok.1 hinput
    exact ⟨permits, hpermits⟩
  · cases hcached

/-- With an empty cache the equipment has to be read too. -/
theorem equipment_of_evaluateTick {e : Evaluation R Uuid}
    (h : evaluateTick M T db zoneId gasType simTime tickId {} tierState = .ok e) :
    ∀ e ∈ EquipmentRepository.listByZone db zoneId,
      e.isolationStatus ∈ EquipmentStatus.knownIsolationStatuses := by
  obtain ⟨f, hc⟩ := evaluateTick_ok h
  have hs := runLevels_ok executionPlan_nodup zoneCall_built hc.run
  obtain ⟨r, s, -, -, hset⟩ := hs.settled [] _ _ rfl (EquipmentStatus.agent M) (by simp)
  rcases hset.own_or_cached with hown | ⟨c, hcached, -⟩
  · obtain ⟨input, hinput, hevaluate⟩ := Except.bind_eq_ok.1 hown
    cases hinput
    obtain ⟨groups, hgroups, -⟩ := Except.bind_eq_ok.1 hevaluate
    intro row hrow
    exact calculateDegradedGroups_total_iff.1 ⟨groups, hgroups⟩ _ (List.mem_map_of_mem hrow)
  · cases hcached

/-- An operable zone's tick returns, whatever the cache. -/
theorem tick_returns (hm : Monitored db zoneId gasType) (ho : Operable T db zoneId gasType) :
    ∃ result, runZoneTick M T zoneId gasType simTime tickId cache tierState db =
      (.ok result, persist db result.assessment) := by
  obtain ⟨e, he⟩ : ∃ e, evaluateTick M T db zoneId gasType simTime tickId cache tierState = .ok e :=
    evaluateTick_total hm ho
  have htick := runZoneTick_compound (compoundTick_eq_ok.2 ⟨he, hm.zone, rfl⟩)
  obtain ⟨result, hresult, hhands⟩ := compare_handsOver_iff.2 ho.comparator
  exact ⟨result, by rw [htick, hresult, hhands.assessment]⟩

/-- **When the first tick of a zone returns.** -/
theorem tick_returns_iff (hm : Monitored db zoneId gasType) :
    (∃ result, (runZoneTick M T zoneId gasType simTime tickId {} tierState db).1 = .ok result) ↔
      Operable T db zoneId gasType := by
  constructor
  · rintro ⟨result, hresult⟩
    have htick : runZoneTick M T zoneId gasType simTime tickId {} tierState db =
        (.ok result, (runZoneTick M T zoneId gasType simTime tickId {} tierState db).2) :=
      Prod.ext hresult rfl
    obtain ⟨e, he, -, ha, hc, ht⟩ := runZoneTick_ok htick
    refine ⟨?_, permits_of_evaluateTick he, equipment_of_evaluateTick he⟩
    have hcompound := compoundTick_eq_ok.2 ⟨he, hm.zone, rfl⟩
    exact (tick_handsOver_iff hcompound).1 ⟨result, hresult, ha, hc, ht⟩
  · intro ho
    obtain ⟨result, htick⟩ := tick_returns hm ho
    exact ⟨result, congrArg Prod.fst htick⟩

end

end RiskPipeline

namespace ScenarioBuilder

open Py Scheduler Tiering RiskPipeline

section
variable {R Uuid : Type} [Field R] [LinearOrder R] [IsStrictOrderedRing R] [DecidableEq Uuid]
  {M : Math R} {T : Text R Uuid} {db : Db R Uuid} {zoneId : Uuid} {gasType : String}

omit [IsStrictOrderedRing R] in
/-- Assessments are not read. -/
theorem operable_persistAll (as : List (RiskAssessment R Uuid)) :
    Operable T (persistAll db as) zoneId gasType ↔ Operable T db zoneId gasType := by
  induction as generalizing db with
  | nil => rfl
  | cons a as ih =>
    exact Iff.trans ih ⟨fun h => ⟨h.comparator, h.permits, h.equipment⟩,
      fun h => ⟨h.comparator, h.permits, h.equipment⟩⟩

omit [Field R] [LinearOrder R] [IsStrictOrderedRing R] in
theorem monitored_persistAll (hm : Monitored db zoneId gasType) (as : List (RiskAssessment R Uuid)) :
    Monitored (persistAll db as) zoneId gasType := by
  induction as generalizing db with
  | nil => exact hm
  | cons a as ih => exact ih ⟨hm.zone, hm.sensor⟩

theorem runTicks_returns (ho : Operable T db zoneId gasType) (hm : Monitored db zoneId gasType)
    (timestamps : List DateTime) (tickId : Nat) (cache : AgentCache R) (tierState : TierState R) :
    ∃ results db', runTicks M T zoneId gasType timestamps tickId cache tierState db =
      (.ok results, db') := by
  induction timestamps generalizing tickId cache tierState db with
  | nil => exact ⟨[], db, rfl⟩
  | cons simTime timestamps ih =>
    obtain ⟨result, htick⟩ : ∃ result, runZoneTick M T zoneId gasType simTime tickId cache tierState db =
      (.ok result, persist db result.assessment) := tick_returns hm ho
    have ho' : Operable T (persist db result.assessment) zoneId gasType :=
      ⟨ho.comparator, ho.permits, ho.equipment⟩
    obtain ⟨results, db', hticks⟩ := ih ho' ⟨hm.zone, hm.sensor⟩ (tickId + 1) result.cache
      result.tierState
    exact ⟨result :: results, db', Service.bind_eq_ok.2 ⟨result, _, htick,
      Service.bind_eq_ok.2 ⟨results, db', hticks, rfl⟩⟩⟩

/-- A zone's ticks return iff its first one does. -/
theorem runZone_returns_iff {group : (Uuid × String) × List DateTime} (hne : group.2 ≠ [])
    (hm : Monitored db group.1.1 group.1.2) :
    (∃ run db', runZone M T group db = (.ok run, db')) ↔ Operable T db group.1.1 group.1.2 := by
  obtain ⟨⟨zoneId, gasType⟩, timestamps⟩ := group
  constructor
  · rintro ⟨run, db', h⟩
    obtain ⟨results, db₁, hticks, -⟩ := Service.bind_eq_ok.1 h
    cases hsorted : timestamps.insertionSort fun a b => a.instant ≤ b.instant with
    | nil =>
      have hperm := List.perm_insertionSort (fun a b : DateTime => a.instant ≤ b.instant) timestamps
      rw [hsorted] at hperm
      exact absurd hperm.nil_eq.symm hne
    | cons simTime rest =>
      rw [hsorted] at hticks
      obtain ⟨result, db₂, htick, -⟩ := Service.bind_eq_ok.1 hticks
      exact (tick_returns_iff hm).1 ⟨result, congrArg Prod.fst htick⟩
  · intro ho
    obtain ⟨results, db', hticks⟩ := runTicks_returns (M := M) ho hm
      (timestamps.insertionSort fun a b => a.instant ≤ b.instant) 0 {} TierState.initial
    exact ⟨_, db', Service.bind_eq_ok.2 ⟨results, db', hticks, rfl⟩⟩

/-- **When the groups of a run return.** -/
theorem runGroups_returns_iff {groups : List ((Uuid × String) × List DateTime)}
    (hne : ∀ g ∈ groups, g.2 ≠ []) (hm : ∀ g ∈ groups, Monitored db g.1.1 g.1.2) :
    (∃ runs db', groups.mapM (runZone M T) db = (.ok runs, db')) ↔
      ∀ g ∈ groups, Operable T db g.1.1 g.1.2 := by
  refine Service.mapM_returns_iff (I := fun s => ∃ as, s = persistAll db as) ?_ ?_ ⟨[], rfl⟩
  · rintro g hg _ ⟨as, rfl⟩
    exact (runZone_returns_iff (hne g hg) (monitored_persistAll (hm g hg) as)).trans
      (operable_persistAll as)
  · rintro g - _ run _ ⟨as, rfl⟩ hrun
    obtain ⟨-, rfl⟩ := runZone_ok hrun
    exact ⟨_, (persistAll_append db as _).symm⟩

end

end ScenarioBuilder
