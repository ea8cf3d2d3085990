import IndustrialSafety.Services.Proof.JustificationCodec
import IndustrialSafety.Services.Proof.Replay
import IndustrialSafety.Services.ScenarioBuilder

/-!
# The replay of a run

A `Story` is a run of ticks of one zone that all return, threading the cache and the tier state. The rows
it persists are chained tier to tier (`Story.chained`), and the bookmarks detected over them are those of
the run's own tier changes, bonuses and peak (`replayed_story`). The ticks of the builder's loop are one
(`story_of_runTicks`).
-/

namespace Replay

open Py Scheduler RiskFormula Tiering RiskPipeline JustificationCodec

variable {R Uuid : Type} [Field R] [LinearOrder R] [DecidableEq Uuid] [IsStrictOrderedRing R]

/-! ## Runs -/

/-- A tick of the run: the database it ran on, its arguments, and what it returned. -/
structure StoryTick (R Uuid : Type) [Field R] [LinearOrder R] where
  db : Db R Uuid
  gasType : String
  simTime : DateTime
  tickId : Nat
  cache : AgentCache R
  before : TierState R
  result : RiskPipelineResult R Uuid

namespace StoryTick

/-- The row of the tick. -/
def row (t : StoryTick R Uuid) : RiskAssessment R Uuid := t.result.assessment

def tierBefore (t : StoryTick R Uuid) : Tier := t.before.currentTier

def tierAfter (t : StoryTick R Uuid) : Tier := t.result.tierState.currentTier

/-- The fusion result of the tick. -/
def Fused (M : Math R) (T : Text R Uuid) (zoneId : Uuid) (t : StoryTick R Uuid)
    (f : FusionResult R Uuid) : Prop :=
  ∃ e, evaluateTick M T t.db zoneId t.gasType t.simTime t.tickId t.cache t.before = .ok e ∧
    fuse zoneId t.simTime.instant e.agentResults fusionConfig = .ok f

end StoryTick

/-- Nothing that happens between two ticks of the zone touches the zone's rows. -/
def KeepsRows (zoneId : Uuid) (db db' : Db R Uuid) : Prop :=
  ∀ a ∈ db.riskAssessments, a.zoneId = zoneId → a ∈ db'.riskAssessments

/-- Ticks of a zone that all return, each with the cache and the tier state the last one returned. -/
inductive Story (M : Math R) (T : Text R Uuid) (zoneId : Uuid) :
    Db R Uuid → AgentCache R → TierState R → List (StoryTick R Uuid) → Db R Uuid → Prop
  | nil {db db' : Db R Uuid} (cache : AgentCache R) (tierState : TierState R) :
    KeepsRows zoneId db db' → Story M T zoneId db cache tierState [] db'
  | cons {db db₁ db' : Db R Uuid} {ticks : List (StoryTick R Uuid)} (t : StoryTick R Uuid) :
    KeepsRows zoneId db t.db →
    runZoneTick M T zoneId t.gasType t.simTime t.tickId t.cache t.before t.db = (.ok t.result, db₁) →
    Story M T zoneId db₁ t.result.cache t.result.tierState ticks db' →
    Story M T zoneId db t.cache t.before (t :: ticks) db'

/-! ## One tick -/

section
variable {M : Math R} {T : Text R Uuid} {zoneId : Uuid} {t : StoryTick R Uuid} {db₁ : Db R Uuid}

/-- What the row of a tick records. -/
structure Told (M : Math R) (T : Text R Uuid) (zoneId : Uuid) (t : StoryTick R Uuid)
    (f : FusionResult R Uuid) : Prop where
  fused : t.Fused M T zoneId f
  tierState : t.result.tierState = transition t.before f tieringConfig
  assessmentId : t.row.assessmentId = deriveAssessmentId T zoneId t.simTime
  zoneId : t.row.zoneId = zoneId
  timestamp : t.row.timestamp = t.simTime.instant
  score : t.row.compoundRiskScore = f.compoundRiskScore
  tier : t.row.tier = t.tierAfter
  before : t.row.justification.tierBefore = t.tierBefore
  after : t.row.justification.tierAfter = t.tierAfter
  multiplier : t.row.justification.interactionBonusApplied = f.interactionBonusApplied
  bonus : "interaction_bonus_applied" ∈ t.row.justification.rulesFired ↔ 1 < f.interactionBonusApplied

theorem told_tick (h : runZoneTick M T zoneId t.gasType t.simTime t.tickId t.cache t.before t.db =
    (.ok t.result, db₁)) :
    (∃ f, Told M T zoneId t f) ∧ db₁ = persist t.db t.row := by
  obtain ⟨e, he, hdb, hrow, hcache, htier⟩ := runZoneTick_ok h
  have hrow : t.row = e.assessment := hrow
  obtain ⟨f, hc⟩ := evaluateTick_ok he
  refine ⟨⟨f, ?_⟩, by rw [hrow]; exact hdb⟩
  obtain ⟨g, eq, p, w, hfour⟩ := run_fourResults rfl zoneCall_built hc.run
  have hgiven : Given fusionConfig e.agentResults (four g eq p w) := hfour.weights
  obtain ⟨f', hf', hfused⟩ : ∃ f, RiskFormula.fuse zoneId t.simTime.instant e.agentResults fusionConfig =
      .ok f ∧ RiskFormula.Fused fusionConfig (four g eq p w) f := fuse_ok hgiven
  cases hc.fuse.symm.trans hf'
  obtain ⟨j, hj, hbuilt⟩ : ∃ j, Justification.buildRiskAssessmentJustification e.agentResults f
      t.before.currentTier e.tierState.currentTier = .ok j ∧ Justification.Built fusionConfig
        (four g eq p w) f t.before.currentTier e.tierState.currentTier j :=
    Justification.build_ok hgiven hfused
  cases hj.symm.trans (evaluateTick_justification he hc.fuse)
  have hafter : t.tierAfter = e.tierState.currentTier := congrArg TierState.currentTier htier
  refine ⟨⟨e, he, hc.fuse⟩, htier.trans hc.tierState, hrow ▸ hc.assessmentId, hrow ▸ hc.zoneId,
    hrow ▸ hc.timestamp, hrow ▸ hc.score, ?_, ?_, ?_, ?_, ?_⟩
  · rw [hrow, hafter, hc.tier]
  · rw [hrow, hbuilt.before, StoryTick.tierBefore]
  · rw [hrow, hafter, hbuilt.after]
  · rw [hrow, hbuilt.bonus]
  · rw [hrow, bonus_rule_iff (fuse_bonus hgiven hc.fuse).2 hbuilt, or_iff_left]
    rintro ⟨p, hp, hloud⟩
    exact hloud (zoneCall_quiet hc.run _ _ (hgiven p hp))

/-- The bookmark of a tick. -/
def StoryTick.bookmark (T : Text R Uuid) (zoneId : Uuid) (kind : BookmarkKind) (label : String)
    (t : StoryTick R Uuid) : ReplayBookmark Uuid :=
  ⟨t.simTime.instant, zoneId, kind, label, some (deriveAssessmentId T zoneId t.simTime)⟩

theorem Told.filter_assessmentBookmarks {f : FusionResult R Uuid} (h : Told M T zoneId t f) :
    ((assessmentBookmarks T zoneId t.row).filter (·.kind = .tierChange) =
      if t.tierBefore ≠ t.tierAfter then [t.bookmark T zoneId .tierChange
        s!"{t.tierBefore.str} → {t.tierAfter.str}"] else []) ∧
    ((assessmentBookmarks T zoneId t.row).filter (·.kind = .critical) =
      if t.tierAfter = .critical ∧ t.tierBefore ≠ .critical then
        [t.bookmark T zoneId .critical "Reached CRITICAL"] else []) ∧
    ((assessmentBookmarks T zoneId t.row).filter (·.kind = .interactionBonus) =
      if 1 < f.interactionBonusApplied then [t.bookmark T zoneId .interactionBonus
        s!"Interaction bonus applied ({T.floatStr f.interactionBonusApplied}×)"] else []) ∧
    (assessmentBookmarks T zoneId t.row).filter (·.kind = .highestRisk) = [] := by
  unfold assessmentBookmarks StoryTick.bookmark
  simp only [h.before, h.after, h.bonus, h.timestamp, h.assessmentId, h.multiplier]
  generalize t.tierBefore = b
  generalize t.tierAfter = a
  by_cases hm : 1 < f.interactionBonusApplied <;> by_cases hab : b = a <;>
    by_cases ha : a = .critical <;> by_cases hb : b = .critical <;>
      simp_all

end

/-! ## The run -/

section
variable {M : Math R} {T : Text R Uuid} {zoneId : Uuid} {db db' : Db R Uuid} {cache : AgentCache R}
  {tierState : TierState R} {ticks : List (StoryTick R Uuid)}

/-- The rows lead from tier to tier, from `tier` on. -/
def Chained : Tier → List (RiskAssessment R Uuid) → Prop
  | _, [] => True
  | tier, a :: rows => a.justification.tierBefore = tier ∧ a.tier = a.justification.tierAfter ∧
      Chained a.tier rows

theorem Story.told (h : Story M T zoneId db cache tierState ticks db') :
    ∀ t ∈ ticks, ∃ f, Told M T zoneId t f := by
  induction h with
  | nil => simp
  | cons t _ hrun _ ih => exact List.forall_mem_cons.2 ⟨(told_tick hrun).1, ih⟩

theorem Story.chained (h : Story M T zoneId db cache tierState ticks db') :
    Chained tierState.currentTier (ticks.map StoryTick.row) := by
  induction h with
  | nil => trivial
  | cons t _ hrun _ ih =>
    obtain ⟨f, ht⟩ := (told_tick hrun).1
    refine ⟨ht.before, ht.tier.trans ht.after.symm, ?_⟩
    show Chained t.row.tier _
    rw [ht.tier]
    exact ih

/-- A row of the zone stays, unless a tick at its time replaces it. -/
theorem Story.keeps (h : Story M T zoneId db cache tierState ticks db') {a : RiskAssessment R Uuid}
    (ha : a ∈ db.riskAssessments) (hzone : a.zoneId = zoneId)
    (htime : ∀ t ∈ ticks, t.simTime.instant ≠ a.timestamp) : a ∈ db'.riskAssessments := by
  induction h with
  | nil _ _ hkeep => exact hkeep a ha hzone
  | cons t hkeep hrun _ ih =>
    obtain ⟨⟨f, ht⟩, rfl⟩ := told_tick hrun
    refine ih (Table.mem_upsert.2 (.inr ⟨hkeep a ha hzone, fun hkey => ?_⟩))
      fun t' ht' => htime t' (List.mem_cons_of_mem _ ht')
    exact htime t (by simp) ((Prod.mk.inj hkey).2.trans ht.timestamp).symm

theorem Story.persisted (h : Story M T zoneId db cache tierState ticks db')
    (hinc : (ticks.map fun t => t.simTime.instant).Pairwise (· < ·)) :
    ∀ t ∈ ticks, t.row ∈ db'.riskAssessments := by
  induction h with
  | nil => simp
  | cons t _ hrun hrest ih =>
    obtain ⟨⟨f, ht⟩, rfl⟩ := told_tick hrun
    obtain ⟨hlt, hinc⟩ := List.pairwise_cons.1 hinc
    refine List.forall_mem_cons.2 ⟨?_, ih hinc⟩
    refine hrest.keeps (Table.mem_upsert.2 (.inl rfl)) ht.zoneId fun t' ht' => ?_
    rw [ht.timestamp]
    exact (hlt _ (List.mem_map_of_mem ht')).ne'

end

/-! ## The bookmarks of the run -/

theorem flatMap_ite {α β : Type} (p : α → Prop) [DecidablePred p] (f : α → β) (l : List α) :
    (l.flatMap fun a => if p a then [f a] else []) = (l.filter p).map f := by
  induction l with
  | nil => rfl
  | cons a l ih => by_cases h : p a <;> simp [h, ih]

section
variable {M : Math R} {T : Text R Uuid} {zoneId : Uuid} {ticks : List (StoryTick R Uuid)}
  {floatStr1 : R → String} {permits : List (Permit R Uuid)}

/-- The multiplier of a tick, as stored. -/
def StoryTick.multiplier (t : StoryTick R Uuid) : R := t.row.justification.interactionBonusApplied

omit [Field R] [DecidableEq Uuid] [IsStrictOrderedRing R] in
/-- The bookmarks of one kind, other than the peak and the permits. -/
theorem filter_detectBookmarks_kind {kind : BookmarkKind} (hpeak : kind ≠ .highestRisk)
    (hpermit : kind ≠ .permitActivated) (rows : List (RiskAssessment R Uuid)) :
    (detectBookmarks T floatStr1 zoneId rows permits).filter (·.kind = kind) =
      rows.flatMap fun a => (assessmentBookmarks T zoneId a).filter (·.kind = kind) := by
  have h1 : (peakBookmark floatStr1 zoneId rows).filter (·.kind = kind) = [] := by
    unfold peakBookmark
    split <;> simp [hpeak.symm]
  have h2 : (permits.map (permitBookmark zoneId)).filter (·.kind = kind) = [] := by
    simp [List.filter_eq_nil_iff, permitBookmark, hpermit.symm]
  rw [detectBookmarks, List.filter_append, List.filter_append, h1, h2, List.filter_flatMap,
    List.append_nil, List.append_nil]

omit [DecidableEq Uuid] [IsStrictOrderedRing R] in
/-- One kind of bookmark over the rows of a run, from what each tick contributes. -/
theorem filter_bookmarks {kind : BookmarkKind} (hpeak : kind ≠ .highestRisk)
    (hpermit : kind ≠ .permitActivated) (p : StoryTick R Uuid → Prop) [DecidablePred p]
    (label : StoryTick R Uuid → String)
    (h : ∀ t ∈ ticks, (assessmentBookmarks T zoneId t.row).filter (·.kind = kind) =
      if p t then [t.bookmark T zoneId kind (label t)] else []) :
    (detectBookmarks T floatStr1 zoneId (ticks.map StoryTick.row) permits).filter (·.kind = kind) =
      (ticks.filter p).map fun t => t.bookmark T zoneId kind (label t) := by
  rw [filter_detectBookmarks_kind hpeak hpermit, List.flatMap_map, ← flatMap_ite]
  exact List.flatMap_congr h

theorem filter_peak (h : ∀ t ∈ ticks, ∃ f, Told M T zoneId t f) :
    ticks = [] ∨ ∃ t ∈ ticks,
      (∀ t' ∈ ticks, t'.row.compoundRiskScore ≤ t.row.compoundRiskScore) ∧
      (detectBookmarks T floatStr1 zoneId (ticks.map StoryTick.row) permits).filter
        (·.kind = .highestRisk) = [t.bookmark T zoneId .highestRisk
          s!"Highest risk this window ({floatStr1 t.row.compoundRiskScore})"] := by
  have h1 : ((ticks.map StoryTick.row).flatMap (assessmentBookmarks T zoneId)).filter
      (·.kind = .highestRisk) = [] := by
    rw [List.filter_flatMap, List.flatMap_eq_nil_iff]
    intro a ha
    obtain ⟨t, ht, rfl⟩ := List.mem_map.1 ha
    obtain ⟨f, hf⟩ := h t ht
    exact hf.filter_assessmentBookmarks.2.2.2
  have h2 : (permits.map (permitBookmark zoneId)).filter (·.kind = .highestRisk) = [] := by
    simp [List.filter_eq_nil_iff, permitBookmark]
  rw [detectBookmarks, List.filter_append, List.filter_append, h1, h2, List.nil_append,
    List.append_nil, peakBookmark]
  cases hpeak : (ticks.map StoryTick.row).argmax RiskAssessment.compoundRiskScore with
  | none => exact .inl (by simpa using List.argmax_eq_none.1 hpeak)
  | some peak =>
    obtain ⟨t, ht, rfl⟩ := List.mem_map.1 (List.argmax_mem hpeak)
    obtain ⟨f, hf⟩ := h t ht
    refine .inr ⟨t, ht, fun t' ht' => ?_, ?_⟩
    · exact List.le_of_mem_argmax (List.mem_map_of_mem ht') hpeak
    · simp [StoryTick.bookmark, hf.timestamp, hf.assessmentId]

/-- **A replayed run tells the story of its state machine**: the rows of the run are persisted and lead
from `normal` tier to tier; the bookmarks over them are exactly those of the tier changes, the ticks that
enter `critical`, the ticks with a bonus, and one tick of maximal score. -/
theorem replayed_story (M : Math R) (T : Text R Uuid) (floatStr1 : R → String) (zoneId : Uuid)
    {db db' : Db R Uuid} {cache : AgentCache R} (ticks : List (StoryTick R Uuid))
    (h : Story M T zoneId db cache TierState.initial ticks db')
    (hinc : (ticks.map fun t => t.simTime.instant).Pairwise (· < ·))
    (permits : List (Permit R Uuid)) :
    let rows := ticks.map StoryTick.row
    let bookmarks := detectBookmarks T floatStr1 zoneId rows permits
    (∀ row ∈ rows, row ∈ db'.riskAssessments) ∧
    Chained .normal rows ∧
    (∀ t ∈ ticks, ∃ f, Told M T zoneId t f) ∧
    bookmarks.filter (·.kind = .tierChange) = (ticks.filter fun t => t.tierBefore ≠ t.tierAfter).map
      (fun t => t.bookmark T zoneId .tierChange s!"{t.tierBefore.str} → {t.tierAfter.str}") ∧
    bookmarks.filter (·.kind = .critical) =
      (ticks.filter fun t => t.tierAfter = .critical ∧ t.tierBefore ≠ .critical).map
        (fun t => t.bookmark T zoneId .critical "Reached CRITICAL") ∧
    bookmarks.filter (·.kind = .interactionBonus) = (ticks.filter fun t => 1 < t.multiplier).map
      (fun t => t.bookmark T zoneId .interactionBonus
        s!"Interaction bonus applied ({T.floatStr t.multiplier}×)") ∧
    (ticks = [] ∨ ∃ t ∈ ticks,
      (∀ t' ∈ ticks, t'.row.compoundRiskScore ≤ t.row.compoundRiskScore) ∧
      bookmarks.filter (·.kind = .highestRisk) = [t.bookmark T zoneId .highestRisk
        s!"Highest risk this window ({floatStr1 t.row.compoundRiskScore})"]) := by
  have htold := h.told
  refine ⟨?_, h.chained, htold, ?_, ?_, ?_, filter_peak htold⟩
  · intro row hrow
    obtain ⟨t, ht, rfl⟩ := List.mem_map.1 hrow
    exact h.persisted hinc t ht
  · refine filter_bookmarks (by simp) (by simp) _ _ fun t ht => ?_
    obtain ⟨f, hf⟩ := htold t ht
    exact hf.filter_assessmentBookmarks.1
  · refine filter_bookmarks (by simp) (by simp) _ _ fun t ht => ?_
    obtain ⟨f, hf⟩ := htold t ht
    exact hf.filter_assessmentBookmarks.2.1
  · refine filter_bookmarks (by simp) (by simp) _ _ fun t ht => ?_
    obtain ⟨f, hf⟩ := htold t ht
    rw [StoryTick.multiplier, hf.multiplier]
    exact hf.filter_assessmentBookmarks.2.2.1

end

/-! ## The builder's loop -/

/-- The ticks of the builder's loop are a story, and the rows they leave are theirs. -/
theorem story_of_runTicks {M : Math R} {T : Text R Uuid} {zoneId : Uuid} {gasType : String}
    {timestamps : List DateTime} {tickId : Nat} {db db' : Db R Uuid} {cache : AgentCache R}
    {tierState : TierState R} {results : List (RiskPipelineResult R Uuid)}
    (h : ScenarioBuilder.runTicks M T zoneId gasType timestamps tickId cache tierState db =
      (.ok results, db')) : ∃ ticks, Story M T zoneId db cache tierState ticks db' ∧
        ticks.map (fun t => (t.simTime, t.result)) = timestamps.zip results ∧
        ∀ a ∈ db'.riskAssessments, a ∈ db.riskAssessments ∨ a ∈ ticks.map StoryTick.row := by
  induction timestamps generalizing tickId db cache tierState results with
  | nil =>
    obtain ⟨rfl, rfl⟩ := Service.pure_eq_ok.1 h
    exact ⟨[], .nil _ _ fun _ ha _ => ha, rfl, fun _ => .inl⟩
  | cons simTime timestamps ih =>
    obtain ⟨result, db₁, hrun, h⟩ := Service.bind_eq_ok.1 h
    obtain ⟨results, db₂, hrest, h⟩ := Service.bind_eq_ok.1 h
    obtain ⟨rfl, rfl⟩ := Service.pure_eq_ok.1 h
    obtain ⟨ticks, hstory, hresults, hrows⟩ := ih hrest
    let t : StoryTick R Uuid := ⟨db, gasType, simTime, tickId, cache, tierState, result⟩
    refine ⟨t :: ticks, .cons t (fun _ ha _ => ha) hrun hstory, congrArg (_ :: ·) hresults,
      fun a ha => ?_⟩
    rcases hrows a ha with hold | hnew
    · rw [(told_tick (t := t) hrun).2] at hold
      rcases Table.mem_upsert.1 hold with rfl | ⟨hold, -⟩
      · exact .inr (.head _)
      · exact .inl hold
    · exact .inr (.tail _ hnew)

/-- The plant with a worker and an open permit in zone 1, where gas comes, goes and comes again. -/
def gasPlant : Db ℚ ℕ :=
  { Runtime.plant with
    workers := Runtime.plant.workers.upsert ⟨10, "operator", some 1⟩
    permits := Table.empty.upsert
      ⟨30, "hot_work", 1, 0, 3600000000, 9, ⟨some 1, some 1, some 10, some 1, some "0+0"⟩, .active⟩
    sensorReadings := ((Table.empty.upsert ⟨11, 7, 1, "CO", 20, "ppm", 0, "ok"⟩).upsert
      ⟨12, 7, 1, "CO", 1, "ppm", 120000000, "ok"⟩).upsert
        ⟨13, 7, 1, "CO", 20, "ppm", 240000000, "ok"⟩ }

def sixMinutes : List DateTime := (List.range 6).map fun minute : ℕ => ⟨60000000 * minute, 0⟩

/-- Six ticks of zone 1, a minute apart. -/
def gasPlantRun : Except Exc (List (RiskPipelineResult ℚ ℕ)) × Db ℚ ℕ :=
  ScenarioBuilder.runTicks Math.dyadic plainText 1 "CO" sixMinutes 0 {} TierState.initial gasPlant

/-- The time of a tick in minutes, the tiers before and after it and its multiplier. -/
def StoryTick.brief (t : StoryTick R Uuid) : Int × Tier × Tier × R :=
  (t.simTime.instant / 60000000, t.tierBefore, t.tierAfter, t.multiplier)

/-- Gas leads to `critical` with the second tick that sees it, and back with the second that does not. -/
theorem gasPlant_story : ∃ ticks : List (StoryTick ℚ ℕ),
    Story Math.dyadic plainText 1 gasPlant {} TierState.initial ticks gasPlantRun.2 ∧
    (∀ a ∈ gasPlantRun.2.riskAssessments, a ∈ ticks.map StoryTick.row) ∧
    ticks.map (fun t => t.simTime.instant) =
      [0, 60000000, 120000000, 180000000, 240000000, 300000000] ∧
    ticks.map StoryTick.brief = [(0, .normal, .normal, 9 / 5), (1, .normal, .critical, 9 / 5),
      (2, .critical, .critical, 1), (3, .critical, .normal, 1), (4, .normal, .normal, 9 / 5),
      (5, .normal, .critical, 9 / 5)] := by
  have hok : gasPlantRun.1.toOption.map (fun results => (sixMinutes.zip results).map fun (s, r) =>
      (s.instant, s.instant / 60000000, r.assessment.justification.tierBefore,
        r.tierState.currentTier, r.assessment.justification.interactionBonusApplied)) =
    some [(0, 0, .normal, .normal, 9 / 5), (60000000, 1, .normal, .critical, 9 / 5),
      (120000000, 2, .critical, .critical, 1), (180000000, 3, .critical, .normal, 1),
      (240000000, 4, .normal, .normal, 9 / 5), (300000000, 5, .normal, .critical, 9 / 5)] := by
    decide +kernel
  obtain ⟨results, hresults, hvalues⟩ := Except.toOption_map_eq_some.1 hok
  have hrun : gasPlantRun = (.ok results, gasPlantRun.2) := Prod.ext hresults rfl
  obtain ⟨ticks, hstory, hticks, hrows⟩ := story_of_runTicks hrun
  have hbefore : ∀ t ∈ ticks, t.result.assessment.justification.tierBefore = t.tierBefore := by
    intro t ht
    obtain ⟨f, hf⟩ := hstory.told t ht
    exact hf.before
  rw [← hticks, List.map_map, List.map_congr_left (g := fun t => (t.simTime.instant, t.brief))
    fun t ht => by rw [StoryTick.brief, ← hbefore t ht]; rfl] at hvalues
  refine ⟨ticks, hstory, fun a ha => (hrows a ha).resolve_left List.not_mem_nil, ?_, ?_⟩
  · simpa [Function.comp_def] using congrArg (List.map Prod.fst) hvalues
  · simpa [Function.comp_def] using congrArg (List.map Prod.snd) hvalues

/-- The bookmarks of these ticks. -/
theorem replayed_story_gasPlant : ∃ ticks : List (StoryTick ℚ ℕ), ticks.length = 6 ∧
    let rows := ticks.map StoryTick.row
    let marked (kind : BookmarkKind) : List (Instant × String) :=
      ((detectBookmarks plainText (fun _ => "") 1 rows []).filter (·.kind = kind)).map
        fun b => (b.timestamp / 60000000, b.label)
    (∀ row ∈ rows, row ∈ gasPlantRun.2.riskAssessments) ∧
    Chained .normal rows ∧
    (∀ t ∈ ticks, ∃ f, Told Math.dyadic plainText 1 t f) ∧
    marked .tierChange =
      [(1, "normal → critical"), (3, "critical → normal"), (5, "normal → critical")] ∧
    marked .critical = [(1, "Reached CRITICAL"), (5, "Reached CRITICAL")] ∧
    (marked .interactionBonus).map Prod.fst = [0, 1, 4, 5] ∧
    ∃ t ∈ ticks, (∀ t' ∈ ticks, t'.row.compoundRiskScore ≤ t.row.compoundRiskScore) ∧
      marked .highestRisk = [(t.simTime.instant / 60000000, "Highest risk this window ()")] := by
  obtain ⟨ticks, hstory, -, htimes, hbriefs⟩ := gasPlant_story
  obtain ⟨hrows, hchained, htold, htier, hcritical, hbonus, hpeak⟩ :=
    replayed_story Math.dyadic plainText (fun _ => "") 1 _ hstory (by rw [htimes]; decide) []
  -- filters of the ticks, on what is known of them
  have hmarked : ∀ {α : Type} (p : Int × Tier × Tier × ℚ → Bool) (f : Int × Tier × Tier × ℚ → α),
      (ticks.filter fun t => p t.brief).map (fun t => f t.brief) =
        ((ticks.map StoryTick.brief).filter p).map f := by
    intro α p f
    rw [List.filter_map, List.map_map]
    rfl
  refine ⟨ticks, by simpa using congrArg List.length hbriefs, hrows, hchained, htold, ?_, ?_, ?_, ?_⟩
  · refine (congrArg (List.map _) htier).trans (List.map_map.trans ?_)
    refine (hmarked (fun b => b.2.1 ≠ b.2.2.1) fun b => (b.1, s!"{b.2.1.str} → {b.2.2.1.str}")).trans ?_
    rw [hbriefs]
    decide +kernel
  · refine (congrArg (List.map _) hcritical).trans (List.map_map.trans ?_)
    refine (hmarked (fun b => b.2.2.1 = .critical ∧ b.2.1 ≠ .critical)
      fun b => (b.1, "Reached CRITICAL")).trans ?_
    rw [hbriefs]
    decide +kernel
  · refine (congrArg (List.map Prod.fst ∘ List.map _) hbonus).trans ?_
    rw [Function.comp_apply, List.map_map, List.map_map]
    refine (hmarked (fun b => 1 < b.2.2.2) Prod.fst).trans ?_
    rw [hbriefs]
    decide +kernel
  · rcases hpeak with rfl | ⟨t, ht, hle, hpeak⟩
    · cases hbriefs
    · exact ⟨t, ht, hle, congrArg (List.map _) hpeak⟩

end Replay
