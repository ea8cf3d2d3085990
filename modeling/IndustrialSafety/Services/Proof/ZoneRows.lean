import IndustrialSafety.Lib.Upsert
import IndustrialSafety.Services.Proof.Alike
import IndustrialSafety.Services.Proof.Identity

/-!
# The assessments of a zone

Ticks write assessments that carry the ids of their zones' ticks (`Ticked`). In a database where no other
row has such an id (`OwnIds`), they change the rows of their zones and of no other
(`Ticked.zoneRows_eq`), in the order they are written (`zoneRows_persistAll`).
-/

namespace RiskPipeline

open Py Scheduler Tiering

variable {R Uuid : Type} [DecidableEq Uuid]

/-- The assessment carries the id of a tick of its zone. -/
def IsTick (T : Text R Uuid) (a : RiskAssessment R Uuid) : Prop :=
  ∃ simTime : DateTime, a.timestamp = simTime.instant ∧
    a.assessmentId = deriveAssessmentId T a.zoneId simTime

/-- A stored assessment with the key of a zone's tick is one of that zone. -/
def OwnIds (T : Text R Uuid) (db : Db R Uuid) : Prop :=
  ∀ a ∈ db.riskAssessments, ∀ (zoneId : Uuid) (simTime : DateTime),
    a.assessmentId = deriveAssessmentId T zoneId simTime → a.timestamp = simTime.instant →
      a.zoneId = zoneId

/-- The assessments of a zone. -/
def zoneRows (db : Db R Uuid) (zoneId : Uuid) :
    Table fun a : RiskAssessment R Uuid => (a.assessmentId, a.timestamp) :=
  db.riskAssessments.filter (·.zoneId = zoneId)

/-- The ticks of zones of `Z` were made: any number of their assessments is written. -/
def Ticked (T : Text R Uuid) (Z : Uuid → Prop) (db db' : Db R Uuid) : Prop :=
  ∃ as : List (RiskAssessment R Uuid), db' = persistAll db as ∧ ∀ a ∈ as, IsTick T a ∧ Z a.zoneId

section
variable {T : Text R Uuid} {Z : Uuid → Prop} {db db' : Db R Uuid} {w : Uuid}

theorem persistAll_eq (db : Db R Uuid) (as : List (RiskAssessment R Uuid)) :
    persistAll db as = { db with riskAssessments := as.foldl Table.upsert db.riskAssessments } := by
  induction as generalizing db with
  | nil => rfl
  | cons a as ih => exact ih (persist db a)

/-- Writing the same assessments again. -/
theorem persistAll_again (db : Db R Uuid) (as : List (RiskAssessment R Uuid)) :
    persistAll (persistAll db as) as = persistAll db as := by
  rw [persistAll_eq (persistAll db as), persistAll_eq db, Table.foldl_upsert_again]

/-- Only the zone's rows decide which is the latest. -/
theorem latestByZone_congr (h : zoneRows db' w = zoneRows db w) :
    RiskAssessmentRepository.latestByZone db' w = RiskAssessmentRepository.latestByZone db w :=
  congrArg (fun t => Query.latest RiskAssessment.timestamp (Table.rows t)) h

omit [DecidableEq Uuid] in
theorem IsTick.zoneId_eq (hT : Function.Injective T.resolveId) {a b : RiskAssessment R Uuid}
    (ha : IsTick T a) (hb : IsTick T b) (h : a.assessmentId = b.assessmentId) :
    a.zoneId = b.zoneId := by
  obtain ⟨d, -, hida⟩ := ha
  obtain ⟨d', -, hidb⟩ := hb
  rw [hida, hidb] at h
  have hpair : (a.zoneId, d) = (b.zoneId, d') := deriveAssessmentId_injective hT h
  exact (Prod.mk.inj hpair).1

omit [DecidableEq Uuid] in
theorem OwnIds.zoneId_eq (h : OwnIds T db) {a r : RiskAssessment R Uuid} (ha : IsTick T a)
    (hr : r ∈ db.riskAssessments) (hkey : (r.assessmentId, r.timestamp) = (a.assessmentId, a.timestamp)) :
    r.zoneId = a.zoneId := by
  obtain ⟨hid, htime⟩ := Prod.mk.inj hkey
  obtain ⟨d, htime', hid'⟩ := ha
  exact h r hr a.zoneId d (hid.trans hid') (htime.trans htime')

theorem OwnIds.persist (hT : Function.Injective T.resolveId) (h : OwnIds T db)
    {a : RiskAssessment R Uuid} (ha : IsTick T a) : OwnIds T (persist db a) := by
  intro r hr zoneId d hid htime
  rcases Table.mem_upsert.1 hr with rfl | ⟨hr, -⟩
  · obtain ⟨d', -, hid'⟩ := ha
    have hpair : (r.zoneId, d') = (zoneId, d) :=
      deriveAssessmentId_injective hT (hid'.symm.trans hid)
    exact (Prod.mk.inj hpair).1
  · exact h r hr zoneId d hid htime

theorem OwnIds.persistAll (hT : Function.Injective T.resolveId) (h : OwnIds T db)
    {as : List (RiskAssessment R Uuid)} (has : ∀ a ∈ as, IsTick T a) : OwnIds T (persistAll db as) := by
  induction as generalizing db with
  | nil => exact h
  | cons a as ih => exact ih (h.persist hT (has a (.head _))) fun b hb => has b (.tail _ hb)

/-- The rows of a zone are written in their order. -/
theorem zoneRows_persistAll (hT : Function.Injective T.resolveId) (h : OwnIds T db)
    {as : List (RiskAssessment R Uuid)} (has : ∀ a ∈ as, IsTick T a) (w : Uuid) :
    zoneRows (RiskPipeline.persistAll db as) w =
      (as.filter (·.zoneId = w)).foldl Table.upsert (zoneRows db w) := by
  unfold zoneRows
  rw [persistAll_riskAssessments, Table.filter_foldl_upsert]
  · intro a ha r hr hkey
    rw [h.zoneId_eq (has a ha) hr hkey]
  · intro a ha b hb hkey
    rw [(has a ha).zoneId_eq hT (has b hb) (Prod.mk.inj hkey).1]

theorem zoneRows_persist (hT : Function.Injective T.resolveId) (h : OwnIds T db)
    {a : RiskAssessment R Uuid} (ha : IsTick T a) (hw : a.zoneId ≠ w) :
    zoneRows (persist db a) w = zoneRows db w := by
  have hone : ∀ b ∈ [a], IsTick T b := fun b hb => List.mem_singleton.1 hb ▸ ha
  have hrows := zoneRows_persistAll hT h hone w
  rwa [List.filter_singleton, decide_eq_false hw] at hrows

/-! ## What ticks write -/

instance : Std.Refl (Ticked T Z) := ⟨fun _ => ⟨[], rfl, nofun⟩⟩

instance : IsTrans (Db R Uuid) (Ticked T Z) where
  trans _ _ _ h h' := by
    obtain ⟨as, rfl, has⟩ := h
    obtain ⟨bs, rfl, hbs⟩ := h'
    exact ⟨as ++ bs, (persistAll_append _ _ _).symm, List.forall_mem_append.2 ⟨has, hbs⟩⟩

theorem Ticked.own (hT : Function.Injective T.resolveId) (h : Ticked T Z db db') (hown : OwnIds T db) :
    OwnIds T db' := by
  obtain ⟨as, rfl, has⟩ := h
  exact hown.persistAll hT fun a ha => (has a ha).1

/-- The other zones' rows are left alone. -/
theorem Ticked.zoneRows_eq (hT : Function.Injective T.resolveId) (h : Ticked T Z db db')
    (hown : OwnIds T db) (hw : ¬Z w) : zoneRows db' w = zoneRows db w := by
  obtain ⟨as, rfl, has⟩ := h
  have hnone : as.filter (·.zoneId = w) = [] := by
    refine List.filter_eq_nil_iff.2 fun a ha hzone => hw ?_
    exact of_decide_eq_true hzone ▸ (has a ha).2
  rw [zoneRows_persistAll hT hown fun a ha => (has a ha).1, hnone]
  rfl

theorem Ticked.mono {Z' : Uuid → Prop} (h : Ticked T Z db db') (hZ : ∀ z, Z z → Z' z) :
    Ticked T Z' db db' := by
  obtain ⟨as, rfl, has⟩ := h
  exact ⟨as, rfl, fun a ha => ⟨(has a ha).1, hZ _ (has a ha).2⟩⟩

end

variable [Field R] [LinearOrder R] [IsStrictOrderedRing R] {M : Math R} {T : Text R Uuid}
  {Z : Uuid → Prop}

theorem runZoneTick_ticked {zoneId : Uuid} (hZ : Z zoneId) (gasType : String) (simTime : DateTime)
    (tickId : Nat) (cache : AgentCache R) (tierState : TierState R) :
    Service.Across (Ticked T Z) (runZoneTick M T zoneId gasType simTime tickId cache tierState) := by
  intro db
  rw [runZoneTick_effect]
  cases hrow : tickRow M T db zoneId gasType simTime tickId cache tierState with
  | none => exact Std.Refl.refl db
  | some a =>
    obtain ⟨hzone, htime, hid⟩ := tickRow_columns hrow
    refine ⟨[a], rfl, fun b hb => ?_⟩
    rw [List.mem_singleton.1 hb]
    exact ⟨⟨simTime, htime, hzone ▸ hid⟩, hzone ▸ hZ⟩

end RiskPipeline

namespace RiskPipeline

open Py

variable {R Uuid : Type} [Field R] [LinearOrder R] [IsStrictOrderedRing R] [DecidableEq Uuid]

/-- Calls of `run_zone_tick` only write rows with their own ids. -/
theorem calls_ownIds {M : Math R} {T : Text R Uuid} (hT : Function.Injective T.resolveId)
    {seed db : Db R Uuid} {calls : List (Uuid × DateTime)} (hseed : seed.riskAssessments.rows = [])
    (h : Calls M T seed calls db) : OwnIds T db := by
  intro a ha zoneId simTime hid _
  obtain ⟨c, -, hzone, -, hid'⟩ := calls_rows h hseed a ha
  have hpair : (c.1, c.2) = (zoneId, simTime) := deriveAssessmentId_injective hT (hid'.symm.trans hid)
  exact hzone.trans (Prod.mk.inj hpair).1

end RiskPipeline

namespace ScenarioBuilder

open Py RiskPipeline Scheduler Tiering

variable {R Uuid : Type} [Field R] [LinearOrder R] [IsStrictOrderedRing R] [DecidableEq Uuid]
  {M : Math R} {T : Text R Uuid} {Z : Uuid → Prop}

theorem runTicks_ticked {zoneId : Uuid} (hZ : Z zoneId) (gasType : String)
    (timestamps : List DateTime) (tickId : Nat) (cache : AgentCache R) (tierState : TierState R) :
    Service.Across (Ticked T Z) (runTicks M T zoneId gasType timestamps tickId cache tierState) := by
  induction timestamps generalizing tickId cache tierState with
  | nil => exact Service.closed_across.pure _
  | cons simTime timestamps ih =>
    refine Service.closed_across.bind (runZoneTick_ticked hZ _ _ _ _ _) fun result => ?_
    exact Service.closed_across.bind (ih _ _ _) fun _ => Service.closed_across.pure _

theorem runZone_ticked {group : (Uuid × String) × List DateTime} (hZ : Z group.1.1) :
    Service.Across (Ticked T Z) (runZone M T group) := by
  obtain ⟨⟨zoneId, gasType⟩, timestamps⟩ := group
  exact Service.closed_across.bind (runTicks_ticked hZ _ _ _ _ _) fun _ =>
    Service.closed_across.pure _

theorem runGroups_ticked {groups : List ((Uuid × String) × List DateTime)}
    (hZ : ∀ g ∈ groups, Z g.1.1) : Service.Across (Ticked T Z) (groups.mapM (runZone M T)) :=
  Service.closed_across.mapM fun g hg => runZone_ticked (hZ g hg)

end ScenarioBuilder
