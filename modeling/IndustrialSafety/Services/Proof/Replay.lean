import IndustrialSafety.Py.Instances
import IndustrialSafety.Services.Replay
import IndustrialSafety.Services.Runtime

/-!
# Replay completeness

The stored assessments of a window and the permits issued in it (`assessmentsIn`, `permitsIn`)
against what `build_replay` returns (`Complete`):

* `assessmentsIn_perm`, `permitsIn_perm`: what the row limit keeps, and what it cuts off.
* `buildReplay_complete_iff`: nothing is cut off or repeated iff no zone has more than `historyLimit`
  assessments in the window, and each has no permit in it, or is listed once and has at most
  `historyLimit` permits since its start.
-/

namespace Replay

open Py List

section
variable {R Uuid : Type} [DecidableEq Uuid]

def assessmentsIn (db : Db R Uuid) (zoneId : Uuid) (startTime endTime : Instant) :
    List (RiskAssessment R Uuid) :=
  db.riskAssessments.rows.filter fun a =>
    a.zoneId = zoneId ∧ startTime ≤ a.timestamp ∧ a.timestamp ≤ endTime

def permitsIn (db : Db R Uuid) (zoneId : Uuid) (startTime endTime : Instant) :
    List (Permit R Uuid) :=
  db.permits.rows.filter fun p =>
    p.zoneId = zoneId ∧ startTime ≤ p.issuedAt ∧ p.issuedAt ≤ endTime

/-- The permits of a zone issued at `startTime` or later. -/
def permitsSince (db : Db R Uuid) (zoneId : Uuid) (startTime : Instant) : List (Permit R Uuid) :=
  db.permits.rows.filter fun p => p.zoneId = zoneId ∧ startTime ≤ p.issuedAt

/-- The permits that the bookmarks are made of, one for each bookmark. -/
def bookmarked (db : Db R Uuid) (zoneIds : List Uuid) (startTime endTime : Instant) :
    List (Permit R Uuid) :=
  zoneIds.flatMap fun zoneId => zonePermits db zoneId startTime endTime

/-- The replay of the window leaves nothing out and repeats nothing: each zone has its assessments in
ascending order, every instant is counted once, and each permit has one bookmark. -/
structure Complete (db : Db R Uuid) (zoneIds : List Uuid) (startTime endTime : Instant)
    (data : ReplayData R Uuid) : Prop where
  zones : data.zoneTimelines.map ZoneReplayTimeline.zoneId = zoneIds
  assessments : ∀ t ∈ data.zoneTimelines,
    t.assessments ~ assessmentsIn db t.zoneId startTime endTime ∧
      t.assessments.Pairwise fun a b => a.timestamp ≤ b.timestamp
  tickCount : data.tickCount = (zoneIds.flatMap fun zoneId =>
    (assessmentsIn db zoneId startTime endTime).map RiskAssessment.timestamp).toFinset.card
  /-- A bookmark does not name its permit. -/
  bookmarks : data.bookmarks.filter (·.kind = .permitActivated) ~
    (bookmarked db zoneIds startTime endTime).map fun permit => permitBookmark permit.zoneId permit
  permits : ∀ zoneId ∈ zoneIds, ∀ permit ∈ permitsIn db zoneId startTime endTime,
    (bookmarked db zoneIds startTime endTime).countP (·.permitId = permit.permitId) = 1

variable {db : Db R Uuid} {zoneId : Uuid} {zoneIds : List Uuid} {startTime endTime : Instant}

/-! ## Assessments -/

/-- The assessments of the window beyond the newest `historyLimit`. -/
def olderAssessments (db : Db R Uuid) (zoneId : Uuid) (startTime endTime : Instant) :
    List (RiskAssessment R Uuid) :=
  (Query.orderByDesc RiskAssessment.timestamp
    (assessmentsIn db zoneId startTime endTime)).drop historyLimit

theorem historyByZone_window (limit : ℕ) :
    RiskAssessmentRepository.historyByZone db zoneId limit (some (endTime + 1))
        (some (startTime - 1)) =
      (Query.orderByDesc RiskAssessment.timestamp
        (assessmentsIn db zoneId startTime endTime)).take limit := by
  unfold RiskAssessmentRepository.historyByZone assessmentsIn
  congr 2
  refine List.filter_congr fun a _ => ?_
  simp only [Option.mem_some_iff, forall_eq', decide_eq_decide]
  refine and_congr_right fun _ => ?_
  rw [and_comm, Int.sub_one_lt_iff, Int.lt_add_one_iff]

theorem assessmentsIn_perm : assessmentsIn db zoneId startTime endTime ~
    fetchZoneAssessments db zoneId startTime endTime ++
      olderAssessments db zoneId startTime endTime := by
  have hkept := List.perm_insertionSort (fun a b : RiskAssessment R Uuid =>
    a.timestamp ≤ b.timestamp) (RiskAssessmentRepository.historyByZone db zoneId historyLimit
      (some (endTime + 1)) (some (startTime - 1)))
  rw [historyByZone_window] at hkept
  have hall := (List.perm_insertionSort (fun a b : RiskAssessment R Uuid =>
    b.timestamp ≤ a.timestamp) (assessmentsIn db zoneId startTime endTime)).symm
  refine hall.trans ?_
  unfold fetchZoneAssessments olderAssessments
  rw [historyByZone_window, Query.orderByDesc]
  conv_lhs => rw [← List.take_append_drop historyLimit
    (List.insertionSort _ (assessmentsIn db zoneId startTime endTime))]
  exact hkept.symm.append_right _

theorem olderAssessments_eq_nil_iff : olderAssessments db zoneId startTime endTime = [] ↔
    (assessmentsIn db zoneId startTime endTime).length ≤ historyLimit := by
  rw [olderAssessments, List.drop_eq_nil_iff, Query.orderByDesc, List.length_insertionSort]

theorem fetchZoneAssessments_perm_iff : fetchZoneAssessments db zoneId startTime endTime ~
      assessmentsIn db zoneId startTime endTime ↔
    (assessmentsIn db zoneId startTime endTime).length ≤ historyLimit := by
  have hall : assessmentsIn db zoneId startTime endTime ~
      fetchZoneAssessments db zoneId startTime endTime ++
        olderAssessments db zoneId startTime endTime := assessmentsIn_perm
  rw [← olderAssessments_eq_nil_iff]
  refine ⟨fun h => ?_, fun h => ?_⟩
  · have hlength := (h.trans hall).length_eq
    rw [List.length_append] at hlength
    exact List.eq_nil_of_length_eq_zero (by omega)
  · rw [h, List.append_nil] at hall
    exact hall.symm

theorem fetchZoneAssessments_pairwise : (fetchZoneAssessments db zoneId startTime
    endTime).Pairwise fun a b => a.timestamp ≤ b.timestamp := by
  have : Std.Total fun a b : RiskAssessment R Uuid => a.timestamp ≤ b.timestamp :=
    ⟨fun a b => le_total _ _⟩
  have : IsTrans _ fun a b : RiskAssessment R Uuid => a.timestamp ≤ b.timestamp :=
    ⟨fun _ _ _ => le_trans⟩
  exact List.pairwise_insertionSort _ _

/-! ## Permits -/

/-- The permits of the window beyond the newest `historyLimit` permits of the zone. -/
def olderPermits (db : Db R Uuid) (zoneId : Uuid) (startTime endTime : Instant) :
    List (Permit R Uuid) :=
  ((Query.orderByDesc Permit.issuedAt
    (db.permits.rows.filter (·.zoneId = zoneId))).drop historyLimit).filter fun p =>
      startTime ≤ p.issuedAt ∧ p.issuedAt ≤ endTime

theorem permitsIn_perm : permitsIn db zoneId startTime endTime ~
    zonePermits db zoneId startTime endTime ++ olderPermits db zoneId startTime endTime := by
  have hall : permitsIn db zoneId startTime endTime =
      (db.permits.rows.filter (·.zoneId = zoneId)).filter fun p =>
        startTime ≤ p.issuedAt ∧ p.issuedAt ≤ endTime := by
    rw [List.filter_filter, permitsIn]
    refine List.filter_congr fun p _ => ?_
    rw [Bool.and_comm, ← Bool.decide_and]
  have hlist (limit : ℕ) : PermitRepository.listAll db (some zoneId) none limit none none =
      (Query.orderByDesc Permit.issuedAt
        (db.permits.rows.filter (·.zoneId = zoneId))).take limit := by
    simp [PermitRepository.listAll]
  rw [hall, zonePermits, hlist, olderPermits, ← List.filter_append, List.take_append_drop]
  exact (List.perm_insertionSort _ _).symm.filter _

theorem olderPermits_eq_nil_iff : olderPermits db zoneId startTime endTime = [] ↔
    permitsIn db zoneId startTime endTime = [] ∨
      (permitsSince db zoneId startTime).length ≤ historyLimit := by
  have hsince : (permitsSince db zoneId startTime).length =
      ((Query.orderByDesc Permit.issuedAt (db.permits.rows.filter (·.zoneId = zoneId))).filter
        fun p => startTime ≤ p.issuedAt).length := by
    rw [Query.orderByDesc, ((List.perm_insertionSort _ _).filter _).length_eq,
      List.filter_filter, permitsSince]
    refine congrArg List.length (List.filter_congr fun p _ => ?_)
    rw [Bool.and_comm, ← Bool.decide_and]
  rw [hsince, olderPermits, permitsIn, List.filter_eq_nil_iff, List.filter_eq_nil_iff]
  simp only [decide_eq_true_eq]
  rw [Query.drop_window_iff (Query.pairwise_orderByDesc _ _)]
  refine or_congr_left (forall_congr' fun p => ?_)
  simp only [Query.mem_orderByDesc, List.mem_filter, decide_eq_true_eq, not_and, and_imp]

theorem mem_permitsIn_of_mem {permit : Permit R Uuid}
    (h : permit ∈ zonePermits db zoneId startTime endTime) :
    permit ∈ permitsIn db zoneId startTime endTime :=
  permitsIn_perm.symm.subset (List.mem_append_left _ h)

theorem mem_permitsIn {permit : Permit R Uuid} : permit ∈ permitsIn db zoneId startTime endTime ↔
    permit ∈ db.permits ∧ permit.zoneId = zoneId ∧ startTime ≤ permit.issuedAt ∧
      permit.issuedAt ≤ endTime := by
  rw [permitsIn, List.mem_filter, decide_eq_true_eq]
  rfl

theorem permitsIn_nodup : ((permitsIn db zoneId startTime endTime).map Permit.permitId).Nodup :=
  db.permits.nodup.sublist (List.filter_sublist.map _)

/-- The row limit cuts off no permit of the window. -/
theorem mem_zonePermits_iff : (∀ permit ∈ permitsIn db zoneId startTime endTime,
      permit ∈ zonePermits db zoneId startTime endTime) ↔
    permitsIn db zoneId startTime endTime = [] ∨
      (permitsSince db zoneId startTime).length ≤ historyLimit := by
  have hall : permitsIn db zoneId startTime endTime ~ zonePermits db zoneId startTime endTime ++
    olderPermits db zoneId startTime endTime := permitsIn_perm
  rw [← olderPermits_eq_nil_iff]
  constructor
  · intro h
    refine List.eq_nil_iff_forall_not_mem.2 fun permit hmem => ?_
    have hnodup := hall.nodup_iff.1 permitsIn_nodup.of_map
    exact List.disjoint_of_nodup_append hnodup
      (h permit (hall.symm.subset (List.mem_append_right _ hmem))) hmem
  · intro h permit hmem
    rw [h, List.append_nil] at hall
    exact hall.subset hmem

open Classical in
/-- A zone's part of the bookmarked permits has each of them once. -/
theorem countP_zonePermits {permit : Permit R Uuid} (hpermit : permit ∈ db.permits) :
    (zonePermits db zoneId startTime endTime).countP (·.permitId = permit.permitId) =
      if permit ∈ zonePermits db zoneId startTime endTime then 1 else 0 := by
  have hcount : (zonePermits db zoneId startTime endTime).countP (·.permitId = permit.permitId) =
      ((zonePermits db zoneId startTime endTime).map Permit.permitId).count permit.permitId := by
    rw [List.count, List.countP_map]
    exact List.countP_congr fun _ _ => by simp
  have hnodup : ((zonePermits db zoneId startTime endTime).map Permit.permitId).Nodup :=
    ((permitsIn_perm.map _).nodup_iff.1 permitsIn_nodup).sublist
      ((List.sublist_append_left _ _).map _)
  rw [hcount]
  split
  case isTrue hmem => exact List.count_eq_one_of_mem hnodup (List.mem_map_of_mem hmem)
  case isFalse hmem =>
    refine List.count_eq_zero.2 fun hkey => hmem ?_
    obtain ⟨other, hother, hid⟩ := List.mem_map.1 hkey
    have hstored := (mem_permitsIn.1 (mem_permitsIn_of_mem hother)).1
    rwa [← Table.eq_of_key hstored hpermit hid]

open Classical in
/-- How often a permit of the window is bookmarked: once for each entry of its zone. -/
theorem countP_bookmarked {permit : Permit R Uuid}
    (h : permit ∈ permitsIn db zoneId startTime endTime) :
    (bookmarked db zoneIds startTime endTime).countP (·.permitId = permit.permitId) =
      if permit ∈ zonePermits db zoneId startTime endTime then zoneIds.count zoneId else 0 := by
  obtain ⟨hpermit, hzone, -⟩ := mem_permitsIn.1 h
  induction zoneIds with
  | nil => simp [bookmarked]
  | cons z zs ih =>
    unfold bookmarked at ih ⊢
    rw [List.flatMap_cons, List.countP_append, ih, countP_zonePermits hpermit, List.count_cons]
    by_cases hz : z = zoneId
    · subst hz
      split <;> simp [Nat.add_comm]
    · have hother : permit ∉ zonePermits db z startTime endTime := fun hmem =>
        hz ((mem_permitsIn.1 (mem_permitsIn_of_mem hmem)).2.1.symm.trans hzone)
      simp [hother, hz]

/-- Each permit of a zone has one bookmark. -/
theorem bookmarked_once_iff :
    (∀ permit ∈ permitsIn db zoneId startTime endTime,
      (bookmarked db zoneIds startTime endTime).countP (·.permitId = permit.permitId) = 1) ↔
    permitsIn db zoneId startTime endTime = [] ∨ zoneIds.count zoneId = 1 ∧
      (permitsSince db zoneId startTime).length ≤ historyLimit := by
  classical
  by_cases hnil : permitsIn db zoneId startTime endTime = []
  · simp [hnil]
  have hkept : (∀ permit ∈ permitsIn db zoneId startTime endTime,
      permit ∈ zonePermits db zoneId startTime endTime) ↔
        (permitsSince db zoneId startTime).length ≤ historyLimit :=
    mem_zonePermits_iff.trans (or_iff_right hnil)
  rw [or_iff_right hnil, ← hkept]
  have hcounted : ∀ permit ∈ permitsIn db zoneId startTime endTime,
      (bookmarked db zoneIds startTime endTime).countP (·.permitId = permit.permitId) =
        if permit ∈ zonePermits db zoneId startTime endTime then zoneIds.count zoneId else 0 :=
    fun _ => countP_bookmarked
  constructor
  · intro h
    have hmem : ∀ permit ∈ permitsIn db zoneId startTime endTime,
        permit ∈ zonePermits db zoneId startTime endTime := by
      intro permit hpermit
      by_contra hnot
      have hone := h permit hpermit
      rw [hcounted permit hpermit, if_neg hnot] at hone
      exact absurd hone (by decide)
    obtain ⟨permit, hpermit⟩ := List.exists_mem_of_ne_nil _ hnil
    have hone := h permit hpermit
    rw [hcounted permit hpermit, if_pos (hmem permit hpermit)] at hone
    exact ⟨hone, hmem⟩
  · rintro ⟨hone, hmem⟩ permit hpermit
    rw [hcounted permit hpermit, if_pos (hmem permit hpermit), hone]

end

/-! ## The replay -/

section
variable {R Uuid : Type} [DecidableEq Uuid] [Field R] [LinearOrder R]
  (T : Text R Uuid) (floatStr1 : R → String) {db : Db R Uuid} {zoneIds : List Uuid}
  {startTime endTime : Instant}

omit [DecidableEq Uuid] [Field R] in
theorem filter_detectBookmarks (zoneId : Uuid) (assessments : List (RiskAssessment R Uuid))
    (permits : List (Permit R Uuid)) :
    (detectBookmarks T floatStr1 zoneId assessments permits).filter
      (·.kind = .permitActivated) = permits.map (permitBookmark zoneId) := by
  have hassessment : (assessments.flatMap (assessmentBookmarks T zoneId)).filter
      (·.kind = .permitActivated) = [] := by
    refine List.filter_eq_nil_iff.2 fun b hb => ?_
    obtain ⟨a, -, hb⟩ := List.mem_flatMap.1 hb
    unfold assessmentBookmarks at hb
    simp only [List.mem_append] at hb
    rcases hb with hb | hb
    · split at hb
      · rcases List.mem_cons.1 hb with rfl | hb
        · simp
        · split at hb <;> simp_all
      · exact nomatch hb
    · split at hb <;> simp_all
  have hpeak : (peakBookmark floatStr1 zoneId assessments).filter
      (·.kind = .permitActivated) = [] := by
    unfold peakBookmark
    split <;> simp
  have hpermits : (permits.map (permitBookmark zoneId)).filter (·.kind = .permitActivated) =
      permits.map (permitBookmark zoneId) := by
    refine List.filter_eq_self.2 fun b hb => ?_
    obtain ⟨p, -, rfl⟩ := List.mem_map.1 hb
    rfl
  rw [detectBookmarks, List.filter_append, List.filter_append, hassessment, hpeak, hpermits]
  rfl

theorem filter_bookmarks_perm :
    (replayOf T floatStr1 db zoneIds startTime endTime).bookmarks.filter
      (·.kind = .permitActivated) ~ (bookmarked db zoneIds startTime endTime).map
        fun permit => permitBookmark permit.zoneId permit := by
  refine ((List.perm_insertionSort _ _).filter _).trans ?_
  rw [List.flatMap_map, List.filter_flatMap, bookmarked, List.map_flatMap]
  simp only [filter_detectBookmarks]
  refine .of_eq (List.flatMap_congr fun zoneId _ => List.map_congr_left fun permit hpermit => ?_)
  rw [(mem_permitsIn.1 (mem_permitsIn_of_mem hpermit)).2.1]

variable {T floatStr1}

/-- The bounds, widened by a microsecond, are times. -/
def Widens (startTime endTime : DateTime) : Prop :=
  (endTime.addMicroseconds 1).InRange ∧ (startTime.addMicroseconds (-1)).InRange

theorem buildReplay_eq_ok {startTime endTime : DateTime} {data : ReplayData R Uuid} :
    buildReplay T floatStr1 db zoneIds startTime endTime = .ok data ↔
      (zoneIds = [] ∨ Widens startTime endTime) ∧
        data = replayOf T floatStr1 db zoneIds startTime.instant endTime.instant := by
  unfold buildReplay Widens
  by_cases hnil : zoneIds = []
  · simp [hnil, eq_comm]
  · simp only [hnil, ne_eq, not_false_eq_true, if_true, false_or, Except.bind_eq_ok,
      DateTime.checked_eq_ok, Except.pure_eq_ok, Except.ok.injEq]
    constructor
    · rintro ⟨_, ⟨hend, rfl⟩, _, ⟨hstart, rfl⟩, rfl⟩
      exact ⟨⟨hend, hstart⟩, rfl⟩
    · rintro ⟨⟨hend, hstart⟩, rfl⟩
      exact ⟨_, ⟨hend, rfl⟩, _, ⟨hstart, rfl⟩, rfl⟩

/-- **A replay is complete** iff its bounds can be widened, no zone has more than `historyLimit`
assessments in the window, and each has no permit in the window, or is listed once and has at most
`historyLimit` permits since its start. -/
theorem buildReplay_complete_iff (T : Text R Uuid) (floatStr1 : R → String) (db : Db R Uuid)
    (zoneIds : List Uuid) (startTime endTime : DateTime) :
    (∃ data, buildReplay T floatStr1 db zoneIds startTime endTime = .ok data ∧
        Complete db zoneIds startTime.instant endTime.instant data) ↔
      (zoneIds = [] ∨ (endTime.addMicroseconds 1).InRange ∧
        (startTime.addMicroseconds (-1)).InRange) ∧
      ∀ zoneId ∈ zoneIds,
        (assessmentsIn db zoneId startTime.instant endTime.instant).length ≤ historyLimit ∧
          (permitsIn db zoneId startTime.instant endTime.instant = [] ∨ zoneIds.count zoneId = 1 ∧
            (permitsSince db zoneId startTime.instant).length ≤ historyLimit) := by
  simp only [buildReplay_eq_ok, Widens, and_assoc, exists_and_left, exists_eq_left]
  refine and_congr_right fun _ => ⟨fun h zoneId hz => ⟨?_, ?_⟩, fun h => ⟨?_, ?_, ?_, ?_, ?_⟩⟩
  · exact fetchZoneAssessments_perm_iff.1 (h.assessments _ (List.mem_map_of_mem hz)).1
  · exact bookmarked_once_iff.1 (h.permits zoneId hz)
  · simp [replayOf, Function.comp_def]
  · intro t ht
    obtain ⟨zoneId, hz, rfl⟩ := List.mem_map.1 ht
    exact ⟨fetchZoneAssessments_perm_iff.2 (h zoneId hz).1, fetchZoneAssessments_pairwise⟩
  · show (List.toFinset _).card = _
    congr 1
    ext timestamp
    simp only [List.mem_toFinset, List.mem_flatMap, List.mem_map]
    constructor
    · rintro ⟨t, ⟨zoneId, hz, rfl⟩, a, ha, rfl⟩
      exact ⟨zoneId, hz, a, (fetchZoneAssessments_perm_iff.2 (h zoneId hz).1).subset ha, rfl⟩
    · rintro ⟨zoneId, hz, a, ha, rfl⟩
      exact ⟨_, ⟨zoneId, hz, rfl⟩, a,
        (fetchZoneAssessments_perm_iff.2 (h zoneId hz).1).symm.subset ha, rfl⟩
  · exact filter_bookmarks_perm T floatStr1
  · exact fun zoneId hz => bookmarked_once_iff.2 (h zoneId hz).2

end

def permitAt (i : ℕ) : Permit ℚ ℕ where
  permitId := i
  permitType := "hot_work"
  zoneId := 1
  issuedAt := i
  expiresAt := i + 1
  authorizingOfficerId := 9
  baselineSnapshot := {}
  status := .active

/-- A permit of zone 1 at each of the first `n` microseconds. -/
def manyPermits (n : ℕ) : Db ℚ ℕ :=
  { Runtime.plant with
    permits := {
      rows := (List.range n).map permitAt
      nodup := by
        rw [List.map_map]
        exact (List.map_id _).symm ▸ List.nodup_range } }

theorem length_permitsSince_manyPermits (n : ℕ) :
    (permitsSince (manyPermits n) 1 0).length = n := by
  have hall : permitsSince (manyPermits n) 1 0 = (List.range n).map permitAt := by
    refine List.filter_eq_self.2 fun p hp => ?_
    obtain ⟨i, -, rfl⟩ := List.mem_map.1 hp
    simp [permitAt]
  rw [hall, List.length_map, List.length_range]

theorem permitsIn_manyPermits {n : ℕ} (hn : 0 < n) : permitsIn (manyPermits n) 1 0 0 ≠ [] := by
  intro h
  have hmem : permitAt 0 ∈ (manyPermits n).permits.rows :=
    List.mem_map_of_mem (List.mem_range.2 hn)
  exact List.filter_eq_nil_iff.1 h (permitAt 0) hmem (by decide)

/-- The only permit of the window is the oldest of 5001: it has no bookmark. -/
theorem buildReplay_oldest_permit : ¬∃ data, buildReplay plainText (fun _ => "") (manyPermits 5001)
    [1] ⟨0, 0⟩ ⟨0, 0⟩ = .ok data ∧ Complete (manyPermits 5001) [1] 0 0 data := by
  rintro ⟨data, -, h⟩
  rcases bookmarked_once_iff.1 (h.permits 1 (.head _)) with hin | ⟨-, hsince⟩
  · exact permitsIn_manyPermits (by omega) hin
  · rw [length_permitsSince_manyPermits] at hsince
    exact absurd hsince (by decide)

end Replay
