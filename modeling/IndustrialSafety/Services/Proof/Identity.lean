import IndustrialSafety.Services.Proof.Builder

/-!
# One assessment for each zone and instant

The id of an assessment hashes the text of the tick's time, and the text has the UTC offset; the table
compares instants. `calls_onePerInstant_iff`: after any calls of `run_zone_tick` ids and rows are one for
each zone and instant iff no two calls give one instant of a zone with two offsets.
-/

namespace RiskPipeline

open Py Scheduler Tiering

variable {R Uuid : Type} [Field R] [LinearOrder R] [IsStrictOrderedRing R] [DecidableEq Uuid]

/-- The databases that calls of `run_zone_tick` reach, with what they were called for. Other writes
between the calls leave the assessments alone. -/
inductive Calls (M : Math R) (T : Text R Uuid) (seed : Db R Uuid) :
    List (Uuid × DateTime) → Db R Uuid → Prop
  | start : Calls M T seed [] seed
  | tick {calls : List (Uuid × DateTime)} {db : Db R Uuid} (h : Calls M T seed calls db)
    (zoneId : Uuid) (gasType : String) (simTime : DateTime) (tickId : Nat) (cache : AgentCache R)
    (tierState : TierState R) : Calls M T seed (calls ++ [(zoneId, simTime)])
      (runZoneTick M T zoneId gasType simTime tickId cache tierState db).2
  | other {calls : List (Uuid × DateTime)} {db db' : Db R Uuid} (h : Calls M T seed calls db)
    (hsame : db'.riskAssessments = db.riskAssessments) : Calls M T seed calls db'

/-- One id, and at most one row, for each zone and instant. -/
structure OnePerInstant (T : Text R Uuid) (calls : List (Uuid × DateTime)) (db : Db R Uuid) :
    Prop where
  ids : ∀ c ∈ calls, ∀ c' ∈ calls,
    deriveAssessmentId T c.1 c.2 = deriveAssessmentId T c'.1 c'.2 ↔
      c.1 = c'.1 ∧ c.2.instant = c'.2.instant
  byZoneAndTimestamp : ∀ zoneId timestamp,
    (RiskAssessmentRepository.zoneAndTimestampCandidates db zoneId timestamp).length ≤ 1
  byId : ∀ assessmentId, (RiskAssessmentRepository.getCandidates db assessmentId).length ≤ 1

/-- No instant of a zone is given with two offsets. -/
def SameOffsets (calls : List (Uuid × DateTime)) : Prop :=
  ∀ c ∈ calls, ∀ c' ∈ calls, c.1 = c'.1 → c.2.instant = c'.2.instant → c.2.offset = c'.2.offset

variable {M : Math R} {T : Text R Uuid} {seed db : Db R Uuid} {calls : List (Uuid × DateTime)}

theorem tickRow_columns {zoneId : Uuid} {gasType : String} {simTime : DateTime} {tickId : Nat}
    {cache : AgentCache R} {tierState : TierState R} {a : RiskAssessment R Uuid}
    (h : tickRow M T db zoneId gasType simTime tickId cache tierState = some a) :
    a.zoneId = zoneId ∧ a.timestamp = simTime.instant ∧
      a.assessmentId = deriveAssessmentId T zoneId simTime := by
  unfold tickRow at h
  split at h
  · obtain ⟨e, he, rfl⟩ := Option.map_eq_some_iff.1 h
    obtain ⟨f, hc⟩ := evaluateTick_ok (Except.toOption_eq_some.1 he)
    exact ⟨hc.zoneId, hc.timestamp, hc.assessmentId⟩
  · cases h

/-- Every row is the row of a call. -/
theorem calls_rows (h : Calls M T seed calls db) (hseed : seed.riskAssessments.rows = []) :
    ∀ a ∈ db.riskAssessments, ∃ c ∈ calls, a.zoneId = c.1 ∧ a.timestamp = c.2.instant ∧
      a.assessmentId = deriveAssessmentId T c.1 c.2 := by
  induction h with
  | start =>
    intro a ha
    rw [Table.mem_def, hseed] at ha
    cases ha
  | @tick calls db _ zoneId gasType simTime tickId cache tierState ih =>
    intro a ha
    have hold : a ∈ db.riskAssessments → ∃ c ∈ calls ++ [(zoneId, simTime)], a.zoneId = c.1 ∧
        a.timestamp = c.2.instant ∧ a.assessmentId = deriveAssessmentId T c.1 c.2 := by
      intro ha
      obtain ⟨c, hc, hrow⟩ := ih a ha
      exact ⟨c, List.mem_append_left _ hc, hrow⟩
    rw [runZoneTick_effect] at ha
    cases hrow : tickRow M T db zoneId gasType simTime tickId cache tierState with
    | none =>
      rw [hrow] at ha
      exact hold ha
    | some row =>
      rw [hrow] at ha
      rcases Table.mem_upsert.1 ha with rfl | ⟨ha, -⟩
      · obtain ⟨hzone, htime, hid⟩ := tickRow_columns hrow
        exact ⟨(zoneId, simTime), by simp, hzone, htime, hid⟩
      · exact hold ha
  | other _ hsame ih =>
    rw [hsame]
    exact ih

omit [Field R] [LinearOrder R] [IsStrictOrderedRing R] [DecidableEq Uuid] in
/-- Rows that are all the same row are at most one. -/
theorem length_filter_le_one {p : RiskAssessment R Uuid → Bool}
    (h : ∀ a ∈ db.riskAssessments, ∀ b ∈ db.riskAssessments, p a = true → p b = true → a = b) :
    (db.riskAssessments.rows.filter p).length ≤ 1 := by
  have hnodup : (db.riskAssessments.rows.filter p).Nodup :=
    (List.Nodup.of_map _ db.riskAssessments.nodup).filter _
  have hsame : ∀ a ∈ db.riskAssessments.rows.filter p, ∀ b ∈ db.riskAssessments.rows.filter p,
      a = b := by
    intro a ha b hb
    obtain ⟨ha, hpa⟩ := List.mem_filter.1 ha
    obtain ⟨hb, hpb⟩ := List.mem_filter.1 hb
    exact h a ha b hb hpa hpb
  rcases hrows : db.riskAssessments.rows.filter p with _ | ⟨a, _ | ⟨b, l⟩⟩
  · simp
  · simp
  · rw [hrows] at hnodup hsame
    have hab := hsame a (by simp) b (by simp)
    simp [hab] at hnodup

/-- **One id and one row for each zone and instant iff no instant of a zone is given with two
offsets.** -/
theorem calls_onePerInstant_iff (M : Math R) (T : Text R Uuid)
    (hT : Function.Injective T.resolveId) {seed db : Db R Uuid} {calls : List (Uuid × DateTime)}
    (hseed : seed.riskAssessments.rows = []) (h : Calls M T seed calls db) :
    OnePerInstant T calls db ↔ SameOffsets calls := by
  have hid : ∀ c c' : Uuid × DateTime,
      deriveAssessmentId T c.1 c.2 = deriveAssessmentId T c'.1 c'.2 → c = c' := fun c c' hcc =>
    deriveAssessmentId_injective hT hcc
  constructor
  · intro hone c hc c' hc' hzone hinstant
    rw [hid c c' ((hone.ids c hc c' hc').2 ⟨hzone, hinstant⟩)]
  · intro hsame
    have heq : ∀ c ∈ calls, ∀ c' ∈ calls, c.1 = c'.1 → c.2.instant = c'.2.instant → c = c' := by
      intro c hc c' hc' hzone hinstant
      have hoffset := hsame c hc c' hc' hzone hinstant
      obtain ⟨z, ⟨t, o⟩⟩ := c
      obtain ⟨z', ⟨t', o'⟩⟩ := c'
      simp_all
    have hrows := calls_rows h hseed
    refine ⟨fun c hc c' hc' => ⟨fun hcc => ?_, fun hcc => ?_⟩, fun zoneId timestamp => ?_,
      fun assessmentId => ?_⟩
    · rw [hid c c' hcc]
      exact ⟨rfl, rfl⟩
    · rw [heq c hc c' hc' hcc.1 hcc.2]
    · refine length_filter_le_one fun a ha b hb hpa hpb => ?_
      obtain ⟨hza, hta⟩ := of_decide_eq_true hpa
      obtain ⟨hzb, htb⟩ := of_decide_eq_true hpb
      obtain ⟨c, hc, hzc, htc, hidc⟩ := hrows a ha
      obtain ⟨c', hc', hzc', htc', hidc'⟩ := hrows b hb
      have hcc : c = c' := heq c hc c' hc' (hzc.symm.trans (hza.trans (hzb.symm.trans hzc')))
        (htc.symm.trans (hta.trans (htb.symm.trans htc')))
      refine Table.eq_of_key ha hb (Prod.ext ?_ (hta.trans htb.symm))
      rw [hidc, hidc', hcc]
    · refine length_filter_le_one fun a ha b hb hpa hpb => ?_
      have hids : a.assessmentId = b.assessmentId :=
        (of_decide_eq_true hpa).trans (of_decide_eq_true hpb).symm
      obtain ⟨c, hc, -, htc, hidc⟩ := hrows a ha
      obtain ⟨c', hc', -, htc', hidc'⟩ := hrows b hb
      have hcc : c = c' := hid c c' (hidc.symm.trans (hids.trans hidc'))
      refine Table.eq_of_key ha hb (Prod.ext hids ?_)
      rw [htc, htc', hcc]

/-- Two calls for one instant of zone 1, the second with the given offset. -/
def twice (offset : Int) : Db ℚ ℕ :=
  (runZoneTick Math.dyadic plainText 1 "CO" ⟨0, offset⟩ 1 {} TierState.initial
    (runZoneTick Math.dyadic plainText 1 "CO" ⟨0, 0⟩ 0 {} TierState.initial Runtime.plant).2).2

theorem calls_twice (offset : Int) :
    Calls Math.dyadic plainText Runtime.plant [(1, ⟨0, 0⟩), (1, ⟨0, offset⟩)] (twice offset) :=
  .tick (.tick .start 1 "CO" ⟨0, 0⟩ 0 {} TierState.initial) 1 "CO" ⟨0, offset⟩ 1 {} TierState.initial

theorem calls_onePerInstant_again :
    OnePerInstant plainText [(1, ⟨0, 0⟩), (1, ⟨0, 0⟩)] (twice 0) :=
  (calls_onePerInstant_iff Math.dyadic plainText (plain_resolveId_injective _) rfl
    (calls_twice 0)).2 fun c hc c' hc' _ _ => by
      revert hc hc'
      simp +contextual

/-- One instant at two offsets: two rows. -/
theorem two_offsets_two_rows :
    Calls Math.dyadic plainText Runtime.plant [(1, ⟨0, 0⟩), (1, ⟨0, 3600000000⟩)]
      (twice 3600000000) ∧
    deriveAssessmentId plainText 1 ⟨0, 0⟩ ≠ deriveAssessmentId plainText 1 ⟨0, 3600000000⟩ ∧
    (RiskAssessmentRepository.zoneAndTimestampCandidates (twice 3600000000) 1 0).length = 2 :=
  ⟨calls_twice _, by decide +kernel, by decide +kernel⟩

end RiskPipeline
