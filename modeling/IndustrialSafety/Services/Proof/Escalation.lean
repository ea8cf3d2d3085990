import IndustrialSafety.Services.Proof.Baseline

/-!
# Escalation over runs

Permit Intelligence never recommends less than a permit's stored status (`recommended_row`), and no tick
writes a permit. The recommendation itself is not stored: writing it is left to the caller of the
pipeline. So over a run the recommendations stay above the stored status, and where each is written to
the permit's row they never decrease (`recommendations_escalate`); where none is, a later one can be
lower (`recommendation_lowered`).
-/

namespace RiskPipeline

open Py Scheduler Tiering

variable {R Uuid : Type}

/-- The status that Permit Intelligence recommends for a permit. -/
def recommendedFor (T : Text R Uuid) (permitId : Uuid) (agentResults : Results R) :
    Option PermitStatus := do
  let result ← agentResults "permit_intelligence"
  let decision ← result.justification.evidence.decisions.find?
    (·.permitIdentifier = T.uuidStr permitId)
  pure decision.recommendedStatus

theorem recommendedFor_mem {T : Text R Uuid} {permitId : Uuid} {agentResults : Results R}
    {status : PermitStatus} (h : recommendedFor T permitId agentResults = some status) :
    ∃ result, agentResults "permit_intelligence" = some result ∧
      ∃ d ∈ result.justification.evidence.decisions,
        d.permitIdentifier = T.uuidStr permitId ∧ d.recommendedStatus = status := by
  obtain ⟨result, hresult, h⟩ := Option.bind_eq_some_iff.1 h
  obtain ⟨d, hd, h⟩ := Option.bind_eq_some_iff.1 h
  exact ⟨result, hresult, d, List.mem_of_find?_eq_some hd, by simpa using List.find?_some hd,
    Option.some.inj h⟩

variable [Field R] [LinearOrder R] [DecidableEq Uuid] {M : Math R} {T : Text R Uuid} {db : Db R Uuid}
  {zoneId : Uuid} {gasType : String} {tickId : Nat}

omit [Field R] [LinearOrder R] in
/-- The open permits of the agent's context are the stored ones. -/
theorem permitInput_row {simTime : Instant} {results : Results R} {input : AgentInput R Uuid}
    {stale : Bool} (h : ContextBuilders.makePermitIntelligenceContextBuilder T db stale zoneId simTime
      tickId results = .ok input) {permit : PermitRecord R Uuid}
    (hpermit : permit ∈ PermitIntelligence.openPermits input.context) :
    ∃ row ∈ db.permits, permit.identifier = T.uuidStr row.permitId ∧
      permit.status = row.status := by
  obtain ⟨permits, hpermits, h⟩ := Except.bind_eq_ok.1 h
  cases h
  obtain ⟨row, hrow, hok⟩ := Except.mem_of_mapM_eq_ok hpermits (List.mem_of_mem_filter hpermit)
  exact ⟨row, List.mem_of_mem_filter hrow, toPermitRecord_ok hok⟩

variable [IsStrictOrderedRing R]

/-- A recommendation is at least as severe as the stored status. -/
theorem recommended_row {simTime : DateTime} {cache : AgentCache R} {tierState : TierState R}
    {e : Evaluation R Uuid} {permitId : Uuid} {status : PermitStatus}
    (h : evaluateTick M T db zoneId gasType simTime tickId cache tierState = .ok e)
    (hrec : recommendedFor T permitId e.agentResults = some status) :
    ∃ row, db.permits.get? permitId = some row ∧ row.status.rank ≤ status.rank := by
  obtain ⟨f, hc⟩ := evaluateTick_ok h
  have hs := runLevels_ok executionPlan_nodup zoneCall_built hc.run
  obtain ⟨p, p', hp, -, hsettled⟩ := hs.settled [_] _ _ rfl PermitIntelligence.agent (by simp)
  obtain ⟨result, hresult, d, hd, hident, hstatus⟩ := recommendedFor_mem hrec
  cases hp.symm.trans hresult
  rcases hsettled.own_or_cached with ho | ⟨c, -, rfl⟩
  · obtain ⟨input, hinput, hp⟩ := Except.bind_eq_ok.1 ho
    obtain ⟨g, -, -, -, -, decisions, hdecisions, hdecided⟩ := PermitIntelligence.evaluate_ok hp
    rw [hdecisions] at hd
    obtain ⟨d', hd', rfl⟩ := List.mem_map.1 hd
    obtain ⟨permit, hpermit, hdecided⟩ := List.Forall₂.exists_of_mem_right hdecided hd'
    obtain ⟨row, hrow, hid, hrowStatus⟩ := permitInput_row hinput hpermit
    refine ⟨row, Table.get?_eq_some.2 ⟨hrow, T.uuidStr_injective ?_⟩, ?_⟩
    · rw [← hid, ← hdecided.identifier]
      exact hident
    · subst hstatus
      rw [← hrowStatus, PermitIntelligence.PermitDecision.evidence, hdecided.rank]
      exact le_max_left _ _
  · -- the last known result reports no decision
    cases hd

end RiskPipeline

/-! ## Runs -/

namespace Runtime

open Py RiskPipeline

variable {R Uuid : Type} [Field R] [LinearOrder R] [IsStrictOrderedRing R] [DecidableEq Uuid]

/-- The status that an action recommends for a permit; only a tick recommends one. -/
def State.recommended (M : Math R) (T : Text R Uuid) (permitId : Uuid) (s : State R Uuid) :
    Action R Uuid → Option PermitStatus
  | .write _ => none
  | .tick thread zoneId gasType simTime tickId => do
    let (cache, tierState) ← s.threads[thread]?
    let e ← (evaluateTick M T s.db zoneId gasType simTime tickId cache tierState).toOption
    recommendedFor T permitId e.agentResults

variable [FloorRing R]

/-- An action, and what it recommends for the permit written to its row. -/
def State.supervise (M : Math R) (T : Text R Uuid) (permitId : Uuid) (s : State R Uuid)
    (a : Action R Uuid) : State R Uuid :=
  match s.recommended M T permitId a with
  | none => s.next M T a
  | some status => (s.next M T a).next M T (.write (.updateStatus permitId status.str))

/-- No operation outside the pipeline changes the permit. -/
def Action.Leaves (M : Math R) (T : Text R Uuid) (permitId : Uuid) (s : State R Uuid) :
    Action R Uuid → Prop
  | .write w => (w.call M T s.db).2.permits.get? permitId = s.db.permits.get? permitId
  | .tick .. => True

instance (M : Math R) (T : Text R Uuid) (permitId : Uuid) (s : State R Uuid) :
    ∀ a : Action R Uuid, Decidable (a.Leaves M T permitId s)
  | .write w => inferInstanceAs
    (Decidable ((w.call M T s.db).2.permits.get? permitId = s.db.permits.get? permitId))
  | .tick .. => isTrue trivial

/-- The severity of the stored status. -/
def storedRank (permitId : Uuid) (s : State R Uuid) : Nat :=
  ((s.db.permits.get? permitId).map fun permit => permit.status.rank).getD 0

section
variable {M : Math R} {T : Text R Uuid} {permitId : Uuid} {s : State R Uuid} {a : Action R Uuid}
  {status : PermitStatus}

omit [FloorRing R] in
theorem recommended_stored (h : s.recommended M T permitId a = some status) :
    ∃ row, s.db.permits.get? permitId = some row ∧ row.status.rank ≤ status.rank := by
  cases a with
  | write => cases h
  | tick thread zoneId gasType simTime tickId =>
    obtain ⟨⟨cache, tierState⟩, -, h⟩ := Option.bind_eq_some_iff.1 h
    obtain ⟨e, he, h⟩ := Option.bind_eq_some_iff.1 h
    exact recommended_row (Except.toOption_eq_some.1 he) h

omit [FloorRing R] in
theorem storedRank_le (h : s.recommended M T permitId a = some status) :
    storedRank permitId s ≤ status.rank := by
  obtain ⟨row, hrow, hle⟩ := recommended_stored h
  rwa [storedRank, hrow]

/-- An action keeps the permit's row. -/
theorem next_leaves (ha : a.Leaves M T permitId s) :
    (s.next M T a).db.permits.get? permitId = s.db.permits.get? permitId := by
  cases a with
  | write => exact ha
  | tick =>
    rw [Writes.permits_eq (A := noPermit R Uuid) (fun _ _ => id)
      (State.tick_writes (fun _ => trivial) _ _ _ _ _ _)]

theorem next_updateStatus {row : Permit R Uuid} (h : s.db.permits.get? permitId = some row) :
    (s.next M T (.write (.updateStatus permitId status.str))).db.permits.get? permitId =
      some { row with status } := by
  have hcall : (Write.call M T (.updateStatus permitId status.str) s.db).2 =
      { s.db with permits := s.db.permits.upsert { row with status } } := by
    change ((Service.transaction (PermitRepository.updateStatus T permitId status.str) >>=
      fun _ => (pure () : Service Exc (Db R Uuid) Unit)) s.db).2 = _
    rw [Service.bind_apply, Service.transaction, PermitRepository.updateStatus_eq h]
    rfl
  change (Write.call M T (.updateStatus permitId status.str) s.db).2.permits.get? permitId = _
  rw [hcall, Table.get?_upsert, if_pos (Table.get?_eq_some.1 h).2]

/-- A recommendation raises the stored status to it; any other action keeps it. -/
theorem storedRank_supervise (ha : a.Leaves M T permitId s) :
    storedRank permitId (s.supervise M T permitId a) =
      ((s.recommended M T permitId a).map PermitStatus.rank).getD (storedRank permitId s) := by
  unfold State.supervise
  cases hrec : s.recommended M T permitId a with
  | none => exact congrArg (fun row => (Option.map _ row).getD 0) (next_leaves ha)
  | some status =>
    obtain ⟨row, hrow, -⟩ := recommended_stored hrec
    rw [← next_leaves ha] at hrow
    dsimp only
    rw [storedRank, next_updateStatus hrow]
    rfl

end

/-- **Recommendations over a run.** None is less severe than the permit's stored status; where each is
written to the permit's row they never decrease. -/
theorem recommendations_escalate (M : Math R) (T : Text R Uuid) (permitId : Uuid)
    (s : State R Uuid) (actions : List (Action R Uuid)) :
    (Run.Along (State.next M T) (fun s a => a.Leaves M T permitId s) s actions →
      ∀ status ∈ Run.outputs (State.next M T) (State.recommended M T permitId) s actions,
        storedRank permitId s ≤ status.rank) ∧
    (Run.Along (State.supervise M T permitId) (fun s a => a.Leaves M T permitId s) s actions →
      (Run.outputs (State.supervise M T permitId) (State.recommended M T permitId) s
        actions).Pairwise fun earlier later => earlier.rank ≤ later.rank) := by
  refine ⟨fun h => h.floor_le_outputs (fun s a _ status => storedRank_le) fun s a ha => ?_,
    fun h => h.outputs_pairwise (fun s a _ status => storedRank_le) (fun s a ha => ?_)
      fun s a ha status hrec => ?_⟩
  · rw [storedRank, storedRank, next_leaves ha]
  · rw [storedRank_supervise ha]
    cases hrec : s.recommended M T permitId a with
    | none => exact le_rfl
    | some status => exact storedRank_le hrec
  · rw [storedRank_supervise ha, hrec]
    exact le_rfl

/-- The plant with a permit issued at a gas risk of 50. -/
def permitted : State ℚ ℕ := (State.seeded plant).run Math.dyadic plainText [buildHotWork 5]

def hotWorkPermitId : ℕ := plainText.resolveId "permit:1:P1"

/-- A tick at a reading of 20, and one, with the first one's cache, at a reading of 5. -/
def highThenLow : List (Action ℚ ℕ) :=
  [.write (.ingestReading 5 7 20 (some "ppm") ⟨120000000, 0⟩ "ok"),
    .tick 0 1 "CO" ⟨120000000, 0⟩ 0,
    .write (.ingestReading 6 7 5 (some "ppm") ⟨180000000, 0⟩ "ok"),
    .tick 1 1 "CO" ⟨180000000, 0⟩ 1]

theorem recommendations_escalate_highThenLow :
    (∀ status ∈ Run.outputs (State.next Math.dyadic plainText)
      (State.recommended Math.dyadic plainText hotWorkPermitId) permitted highThenLow,
        storedRank hotWorkPermitId permitted ≤ status.rank) ∧
    (Run.outputs (State.supervise Math.dyadic plainText hotWorkPermitId)
      (State.recommended Math.dyadic plainText hotWorkPermitId) permitted highThenLow).Pairwise
        fun earlier later => earlier.rank ≤ later.rank :=
  have h := recommendations_escalate Math.dyadic plainText hotWorkPermitId permitted highThenLow
  ⟨h.1 (by decide +kernel), h.2 (by decide +kernel)⟩

/-- No operation changes the permit, and the second tick takes the recommendation back. -/
theorem recommendation_lowered :
    Run.Along (State.next Math.dyadic plainText)
      (fun s a => a.Leaves Math.dyadic plainText hotWorkPermitId s) permitted highThenLow ∧
    Run.outputs (State.next Math.dyadic plainText)
      (State.recommended Math.dyadic plainText hotWorkPermitId) permitted highThenLow =
        [.flagged, .active] := by
  decide +kernel

end Runtime
