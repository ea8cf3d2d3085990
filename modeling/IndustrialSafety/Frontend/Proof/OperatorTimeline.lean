import IndustrialSafety.Frontend.OperatorTimeline
import IndustrialSafety.Frontend.Proof.DecisionStability
import IndustrialSafety.Lib.StableSort
import IndustrialSafety.Lib.StepFunction

/-!
# The operator timeline of a run

The client derives a zone's events from a page of its history, the server detects the bookmarks of a
replay from the stored tier transitions, and the playback cursor looks the assessment of a time up. Over
the history of a run the three tell one story (`timeline_told`).
-/

namespace Frontend

open Py StepFunction Replay RiskPipeline Tiering RiskFormula

/-! ## The loop -/

section
variable {R Uuid : Type} [Field R] [LinearOrder R]

/-- What the loop appends for a row that follows another. -/
def emitted (toFixed2 : R → String) (step : Option (RiskAssessment R Uuid) × RiskAssessment R Uuid) :
    List TimelineEvent :=
  tierEvents (step.1.map RiskAssessment.tier) step.2 ++
    bonusEvents toFixed2 ((step.1.map bonusApplied).getD false) step.2

theorem events_foldl (toFixed2 : R → String) (previous : Option (RiskAssessment R Uuid))
    (rows : List (RiskAssessment R Uuid)) (events : List TimelineEvent)
    (highest : Option (RiskAssessment R Uuid)) :
    (rows.foldl (Derivation.step toFixed2) ⟨events, previous.map RiskAssessment.tier,
      (previous.map bonusApplied).getD false, highest⟩).events =
        events ++ (steps previous rows).flatMap (emitted toFixed2) := by
  induction rows generalizing previous events highest with
  | nil => exact (List.append_nil events).symm
  | cons a rows ih =>
    rw [steps, List.flatMap_cons, ← List.append_assoc, emitted, ← List.append_assoc]
    exact ih (some a) _ _

/-- The first of the rows with the highest score. -/
theorem highest_foldl (toFixed2 : R → String) (rows : List (RiskAssessment R Uuid))
    (loop : Derivation R Uuid) : (rows.foldl (Derivation.step toFixed2) loop).highest =
      rows.foldl (List.argAux fun b c => c.compoundRiskScore < b.compoundRiskScore) loop.highest := by
  induction rows generalizing loop with
  | nil => rfl
  | cons a rows ih =>
    rw [List.foldl_cons, List.foldl_cons, ih]
    congr 1
    cases h : loop.highest with
    | none => simp [Derivation.step, h, List.argAux]
    | some peak => simp [Derivation.step, h, List.argAux]

/-- The events before they are sorted. -/
def rawEvents (toFixed1 toFixed2 : R → String) (rows : List (RiskAssessment R Uuid)) :
    List TimelineEvent :=
  (steps none rows).flatMap (emitted toFixed2) ++
    match rows.argmax RiskAssessment.compoundRiskScore with
    | some peak => [⟨peak.timestamp, .highestRisk,
        s!"Highest compound score this window: {toFixed1 peak.compoundRiskScore}"⟩]
    | none => []

theorem deriveTimelineEvents_eq (toFixed1 toFixed2 : R → String)
    (rows : List (RiskAssessment R Uuid)) : deriveTimelineEvents toFixed1 toFixed2 rows =
      (rawEvents toFixed1 toFixed2 rows).insertionSort fun a b =>
        getTime a.timestamp ≤ getTime b.timestamp := by
  unfold deriveTimelineEvents rawEvents
  dsimp only
  rw [highest_foldl, show (rows.foldl (Derivation.step toFixed2) ⟨[], none, false, none⟩).events = _ from
    events_foldl toFixed2 none rows [] none]
  rfl

end

/-! ## The events of one kind -/

section
variable {R Uuid : Type} [Field R] {toFixed1 toFixed2 : R → String}
  {rows : List (RiskAssessment R Uuid)}

theorem of_mem_emitted {step : Option (RiskAssessment R Uuid) × RiskAssessment R Uuid}
    {e : TimelineEvent} (h : e ∈ emitted toFixed2 step) :
    e.timestamp = step.2.timestamp ∧ e.kind ≠ .highestRisk := by
  unfold emitted tierEvents bonusEvents at h
  rcases List.mem_append.1 h with h | h
  · split at h
    · cases h
    · split at h
      · rcases List.mem_cons.1 h with rfl | h
        · exact ⟨rfl, by simp⟩
        · split at h
          · rw [List.mem_singleton.1 h]
            exact ⟨rfl, by simp⟩
          · cases h
      · cases h
  · split at h
    · rw [List.mem_singleton.1 h]
      exact ⟨rfl, by simp⟩
    · cases h

theorem pairwise_emitted (hrows : rows.Pairwise fun a b => getTime a.timestamp < getTime b.timestamp) :
    ((steps none rows).flatMap (emitted toFixed2)).Pairwise fun a b =>
      getTime a.timestamp ≤ getTime b.timestamp := by
  have hsteps : (steps none rows).Pairwise fun p q =>
      getTime p.2.timestamp < getTime q.2.timestamp := by
    rw [← map_snd_steps none rows, List.pairwise_map] at hrows
    exact hrows
  refine List.pairwise_flatMap.2 ⟨fun p _ => List.pairwise_of_forall_mem_list fun e he e' he' => ?_,
    hsteps.imp fun {p q} hlt e he e' he' => ?_⟩
  · rw [(of_mem_emitted he).1, (of_mem_emitted he').1]
  · rw [(of_mem_emitted he).1, (of_mem_emitted he').1]
    exact hlt.le

variable [LinearOrder R]

/-- The peak is the only event of its kind. -/
theorem filter_rawEvents (kind : TimelineEventKind) :
    (rawEvents toFixed1 toFixed2 rows).filter (·.kind = kind) =
      if kind = .highestRisk then
        match rows.argmax RiskAssessment.compoundRiskScore with
        | some peak => [⟨peak.timestamp, .highestRisk,
            s!"Highest compound score this window: {toFixed1 peak.compoundRiskScore}"⟩]
        | none => []
      else (steps none rows).flatMap fun step => (emitted toFixed2 step).filter (·.kind = kind) := by
  rw [rawEvents, List.filter_append, List.filter_flatMap]
  by_cases hkind : kind = .highestRisk
  · have hnone : ((steps none rows).flatMap fun step => (emitted toFixed2 step).filter (·.kind = kind)) =
        [] := by
      rw [List.flatMap_eq_nil_iff]
      intro step _
      refine List.filter_eq_nil_iff.2 fun e he => ?_
      rw [hkind]
      simpa using (of_mem_emitted he).2
    rw [hnone, if_pos hkind, List.nil_append]
    split <;> simp [hkind]
  · rw [if_neg hkind]
    split <;> simp [Ne.symm hkind]

theorem filter_deriveTimelineEvents (kind : TimelineEventKind)
    (hrows : rows.Pairwise fun a b => getTime a.timestamp < getTime b.timestamp) :
    (deriveTimelineEvents toFixed1 toFixed2 rows).filter (·.kind = kind) =
      (rawEvents toFixed1 toFixed2 rows).filter (·.kind = kind) := by
  have htotal : Std.Total fun a b : TimelineEvent => getTime a.timestamp ≤ getTime b.timestamp :=
    ⟨fun a b => le_total _ _⟩
  have htrans : IsTrans TimelineEvent fun a b => getTime a.timestamp ≤ getTime b.timestamp :=
    ⟨fun _ _ _ hab hbc => hab.trans hbc⟩
  rw [deriveTimelineEvents_eq]
  refine StableSort.filter_insertionSort ?_
  rw [filter_rawEvents]
  split
  · split <;> simp
  · rw [← List.filter_flatMap]
    exact (pairwise_emitted hrows).sublist List.filter_sublist

end

/-! ## The bookmarks of the rows -/

section
variable {R Uuid : Type} {T : Text R Uuid} {zoneId : Uuid} {rows : List (RiskAssessment R Uuid)}

/-- A row of a run after another. -/
def Follows (a b : RiskAssessment R Uuid) : Prop :=
  b.justification.tierBefore = a.tier ∧ b.tier = b.justification.tierAfter

theorem isChain_of_chained {tier : Tier} (h : Chained tier rows) : rows.IsChain Follows := by
  induction rows generalizing tier with
  | nil => exact .nil
  | cons a rows ih =>
    obtain ⟨-, -, hrows⟩ := h
    cases rows with
    | nil => exact .singleton a
    | cons b rows =>
      exact List.isChain_cons_cons.2 ⟨⟨hrows.1, hrows.2.1⟩, ih hrows⟩

theorem filter_assessmentBookmarks (a : RiskAssessment R Uuid) :
    ((assessmentBookmarks T zoneId a).filter (·.kind = .tierChange) =
      if a.justification.tierBefore ≠ a.justification.tierAfter then
        [⟨a.timestamp, zoneId, .tierChange,
          s!"{a.justification.tierBefore.str} → {a.justification.tierAfter.str}", some a.assessmentId⟩]
      else []) ∧
    ((assessmentBookmarks T zoneId a).filter (·.kind = .critical) =
      if a.justification.tierAfter = .critical ∧ a.justification.tierBefore ≠ .critical then
        [⟨a.timestamp, zoneId, .critical, "Reached CRITICAL", some a.assessmentId⟩] else []) ∧
    ((assessmentBookmarks T zoneId a).filter (·.kind = .interactionBonus) =
      if "interaction_bonus_applied" ∈ a.justification.rulesFired then
        [⟨a.timestamp, zoneId, .interactionBonus, s!"Interaction bonus applied ({T.floatStr
          a.justification.interactionBonusApplied}×)", some a.assessmentId⟩] else []) ∧
    (assessmentBookmarks T zoneId a).filter (·.kind = .highestRisk) = [] := by
  unfold assessmentBookmarks
  generalize a.justification.tierBefore = before
  generalize a.justification.tierAfter = after
  by_cases hbonus : "interaction_bonus_applied" ∈ a.justification.rulesFired <;>
    by_cases hchange : before = after <;> by_cases ha : after = .critical <;>
      by_cases hb : before = .critical <;> simp_all

/-- Other than the peak, the bookmarks are those of the rows. -/
theorem mem_timestamps_bonus [LinearOrder R] {floatStr1 : R → String} {permits : List (Permit R Uuid)}
    {t : Instant} : t ∈ ((detectBookmarks T floatStr1 zoneId rows permits).filter
      (·.kind = .interactionBonus)).map ReplayBookmark.timestamp ↔
        ∃ a ∈ rows, "interaction_bonus_applied" ∈ a.justification.rulesFired ∧ a.timestamp = t := by
  rw [filter_detectBookmarks_kind (by simp) (by simp), List.map_flatMap, List.mem_flatMap]
  refine exists_congr fun a => and_congr_right fun _ => ?_
  rw [(filter_assessmentBookmarks a).2.2.1]
  split
  · rename_i h
    simp [h, eq_comm]
  · rename_i h
    simp [h]

theorem filter_detectBookmarks_peak [LinearOrder R] {floatStr1 : R → String}
    {permits : List (Permit R Uuid)} : (detectBookmarks T floatStr1 zoneId rows permits).filter
      (·.kind = .highestRisk) = peakBookmark floatStr1 zoneId rows := by
  have h1 : (rows.flatMap (assessmentBookmarks T zoneId)).filter (·.kind = .highestRisk) = [] := by
    rw [List.filter_flatMap, List.flatMap_eq_nil_iff]
    exact fun a _ => (filter_assessmentBookmarks a).2.2.2
  have h2 : (permits.map (permitBookmark zoneId)).filter (·.kind = .highestRisk) = [] := by
    simp [List.filter_eq_nil_iff, permitBookmark]
  rw [detectBookmarks, List.filter_append, List.filter_append, h1, h2, List.nil_append,
    List.append_nil, peakBookmark]
  split <;> simp

end

/-! ## The two lists compared -/

section
variable {R Uuid : Type} [Field R] [LinearOrder R] {T : Text R Uuid} {zoneId : Uuid}
  {toFixed1 toFixed2 floatStr1 : R → String} {rows : List (RiskAssessment R Uuid)}
  {permits : List (Permit R Uuid)}

omit [LinearOrder R] in
theorem bonusApplied_iff (a : RiskAssessment R Uuid) :
    bonusApplied a = true ↔ "interaction_bonus_applied" ∈ a.justification.rulesFired := by
  unfold bonusApplied justificationOf
  rw [parseJustification_serialize]
  exact List.contains_iff_mem

omit [LinearOrder R] in
/-- The events of a row by kind. -/
theorem filter_emitted (previous : Option (RiskAssessment R Uuid)) (a : RiskAssessment R Uuid) :
    ((emitted toFixed2 (previous, a)).filter (·.kind = .tierChange) =
      (tierEvents (previous.map RiskAssessment.tier) a).filter (·.kind = .tierChange)) ∧
    ((emitted toFixed2 (previous, a)).filter (·.kind = .critical) =
      (tierEvents (previous.map RiskAssessment.tier) a).filter (·.kind = .critical)) ∧
    (emitted toFixed2 (previous, a)).filter (·.kind = .interactionBonus) =
      bonusEvents toFixed2 ((previous.map bonusApplied).getD false) a := by
  unfold emitted bonusEvents
  simp only [List.filter_append]
  refine ⟨?_, ?_, ?_⟩
  · split <;> simp
  · split <;> simp
  · have hnone : (tierEvents (previous.map RiskAssessment.tier) a).filter (·.kind = .interactionBonus) =
        [] := by
      unfold tierEvents
      split
      · rfl
      · split
        · split <;> simp
        · rfl
    rw [hnone]
    split <;> simp

/-- A tier transition of the client is one of the server, from the second row on. -/
theorem timestamps_transition {kind : TimelineEventKind} {kind' : BookmarkKind}
    (hkind : kind ≠ .highestRisk) (hkind' : kind' ≠ .highestRisk) (hpermit : kind' ≠ .permitActivated)
    (hrows : rows.Pairwise fun a b => getTime a.timestamp < getTime b.timestamp)
    (hchain : rows.IsChain Follows)
    (hfirst : ∀ a, (emitted toFixed2 ((none : Option (RiskAssessment R Uuid)), a)).filter (·.kind = kind) = [])
    (hnext : ∀ a b, Follows a b →
      ((emitted toFixed2 (some a, b)).filter (·.kind = kind)).map TimelineEvent.timestamp =
        ((assessmentBookmarks T zoneId b).filter (·.kind = kind')).map ReplayBookmark.timestamp) :
    ((deriveTimelineEvents toFixed1 toFixed2 rows).filter (·.kind = kind)).map TimelineEvent.timestamp =
      ((detectBookmarks T floatStr1 zoneId rows.tail permits).filter (·.kind = kind')).map
        ReplayBookmark.timestamp := by
  rw [filter_deriveTimelineEvents kind hrows, filter_rawEvents, if_neg hkind,
    filter_detectBookmarks_kind hkind' hpermit, List.map_flatMap, List.map_flatMap]
  cases rows with
  | nil => rfl
  | cons a rows =>
    rw [steps, List.flatMap_cons, hfirst a, List.map_nil, List.nil_append, List.tail_cons]
    exact flatMap_steps hchain hnext

theorem timestamps_tierChange
    (hrows : rows.Pairwise fun a b => getTime a.timestamp < getTime b.timestamp)
    (hchain : rows.IsChain Follows) :
    ((deriveTimelineEvents toFixed1 toFixed2 rows).filter (·.kind = .tierChange)).map
        TimelineEvent.timestamp =
      ((detectBookmarks T floatStr1 zoneId rows.tail permits).filter (·.kind = .tierChange)).map
        ReplayBookmark.timestamp := by
  refine timestamps_transition (by simp) (by simp) (by simp) hrows hchain (fun a => ?_)
    (fun a b hab => ?_)
  · rw [(filter_emitted none a).1]
    rfl
  · rw [(filter_emitted (some a) b).1, (filter_assessmentBookmarks b).1, ← hab.2, hab.1, Option.map_some,
      tierEvents]
    by_cases h : b.tier = a.tier
    · rw [if_neg (not_not.2 h), if_neg (not_not.2 h.symm)]
      rfl
    · rw [if_pos h, if_pos (Ne.symm h)]
      split <;> simp

theorem timestamps_critical
    (hrows : rows.Pairwise fun a b => getTime a.timestamp < getTime b.timestamp)
    (hchain : rows.IsChain Follows) :
    ((deriveTimelineEvents toFixed1 toFixed2 rows).filter (·.kind = .critical)).map
        TimelineEvent.timestamp =
      ((detectBookmarks T floatStr1 zoneId rows.tail permits).filter (·.kind = .critical)).map
        ReplayBookmark.timestamp := by
  refine timestamps_transition (by simp) (by simp) (by simp) hrows hchain (fun a => ?_)
    (fun a b hab => ?_)
  · rw [(filter_emitted none a).2.1]
    rfl
  · rw [(filter_emitted (some a) b).2.1, (filter_assessmentBookmarks b).2.1, ← hab.2, hab.1,
      Option.map_some, tierEvents]
    by_cases h : b.tier = a.tier
    · rw [if_neg (not_not.2 h), if_neg fun hcritical => hcritical.2 (h.symm.trans hcritical.1)]
      rfl
    · by_cases hcritical : b.tier = .critical
      · have hleft : a.tier ≠ .critical := fun ha => h (hcritical.trans ha.symm)
        rw [if_pos h, if_pos hcritical, if_pos ⟨hcritical, hleft⟩]
        simp
      · rw [if_pos h, if_neg hcritical, if_neg fun h => hcritical h.1]
        simp

theorem timestamps_peak
    (hrows : rows.Pairwise fun a b => getTime a.timestamp < getTime b.timestamp) :
    ((deriveTimelineEvents toFixed1 toFixed2 rows).filter (·.kind = .highestRisk)).map
        TimelineEvent.timestamp =
      ((detectBookmarks T floatStr1 zoneId rows permits).filter (·.kind = .highestRisk)).map
        ReplayBookmark.timestamp := by
  rw [filter_deriveTimelineEvents _ hrows, filter_rawEvents, if_pos rfl, filter_detectBookmarks_peak,
    peakBookmark]
  cases rows.argmax RiskAssessment.compoundRiskScore <;> rfl

/-- Where the client shows the bonus. -/
theorem mem_onsets (hrows : rows.Pairwise fun a b => getTime a.timestamp < getTime b.timestamp) {t : Instant} :
    t ∈ ((deriveTimelineEvents toFixed1 toFixed2 rows).filter (·.kind = .interactionBonus)).map
        TimelineEvent.timestamp ↔
      ∃ step ∈ steps none rows, bonusApplied step.2 = true ∧
        (step.1.map bonusApplied).getD false = false ∧ step.2.timestamp = t := by
  rw [filter_deriveTimelineEvents _ hrows, filter_rawEvents, if_neg (by simp), List.map_flatMap,
    List.mem_flatMap]
  refine exists_congr fun step => and_congr_right fun _ => ?_
  rw [(filter_emitted step.1 step.2).2.2, bonusEvents]
  split
  · rename_i h
    simp only [Bool.and_eq_true, Bool.not_eq_true'] at h
    simp [h.1, h.2, eq_comm]
  · rename_i h
    simp only [Bool.and_eq_true, Bool.not_eq_true', not_and] at h
    simp only [List.map_nil, List.not_mem_nil, false_iff, not_and]
    exact fun h1 h2 => absurd h2 (h h1)

omit [Field R] [LinearOrder R] in
/-- The rows have distinct times. -/
theorem timestamps_nodup (hrows : rows.Pairwise fun a b => getTime a.timestamp < getTime b.timestamp) :
    (rows.map RiskAssessment.timestamp).Nodup :=
  List.pairwise_map.2 (hrows.imp fun hlt heq => absurd (congrArg getTime heq) hlt.ne)

/-- The client shows a bonus at the first of the rows in a row that have one. -/
theorem onset_iff (hrows : rows.Pairwise fun a b => getTime a.timestamp < getTime b.timestamp)
    {t : Instant} : t ∈ ((deriveTimelineEvents toFixed1 toFixed2 rows).filter
      (·.kind = .interactionBonus)).map TimelineEvent.timestamp ↔
        ∃ a ∈ rows, "interaction_bonus_applied" ∈ a.justification.rulesFired ∧
          (∀ b, [b, a] <:+: rows → "interaction_bonus_applied" ∉ b.justification.rulesFired) ∧
            a.timestamp = t := by
  have hsteps : ((steps none rows).map Prod.snd).Nodup := by
    rw [map_snd_steps]
    exact (timestamps_nodup hrows).of_map
  simp only [mem_onsets hrows, ← bonusApplied_iff, Bool.not_eq_true]
  constructor
  · rintro ⟨⟨previous, a⟩, hstep, hbonus, hprevious, htime⟩
    have ha : a ∈ rows := by
      rw [← map_snd_steps none rows]
      exact List.mem_map_of_mem hstep
    refine ⟨a, ha, hbonus, fun b hb => ?_, htime⟩
    have hb : (some b, a) ∈ steps none rows := mem_steps.2 hb
    cases List.inj_on_of_nodup_map hsteps hstep hb rfl
    exact hprevious
  · rintro ⟨a, ha, hbonus, hprevious, htime⟩
    rw [← map_snd_steps none rows] at ha
    obtain ⟨⟨previous, a⟩, hstep, rfl⟩ := List.mem_map.1 ha
    refine ⟨_, hstep, hbonus, ?_, htime⟩
    cases previous with
    | none => rfl
    | some b => exact hprevious b (mem_steps.1 hstep)

/-- The client shows a bonus at the first of the bookmarked ones in a row. -/
theorem bonus_shown_iff {T : Text R Uuid} {floatStr1 : R → String} {zoneId : Uuid}
    {permits : List (Permit R Uuid)}
    (hrows : rows.Pairwise fun a b => getTime a.timestamp < getTime b.timestamp) {t : Instant} :
    let bookmarked := ((detectBookmarks T floatStr1 zoneId rows permits).filter
      (·.kind = .interactionBonus)).map ReplayBookmark.timestamp
    t ∈ ((deriveTimelineEvents toFixed1 toFixed2 rows).filter
      (·.kind = .interactionBonus)).map TimelineEvent.timestamp ↔
        t ∈ bookmarked ∧ ∀ b a, [b, a] <:+: rows → a.timestamp = t → b.timestamp ∉ bookmarked := by
  intro bookmarked
  have hmarked : ∀ t, t ∈ bookmarked ↔ ∃ a ∈ rows,
      "interaction_bonus_applied" ∈ a.justification.rulesFired ∧ a.timestamp = t :=
    fun t => mem_timestamps_bonus
  have hinj : ∀ a ∈ rows, ∀ b ∈ rows, a.timestamp = b.timestamp → a = b := fun a ha b hb =>
    List.inj_on_of_nodup_map (timestamps_nodup hrows) ha hb
  rw [onset_iff hrows]
  constructor
  · rintro ⟨a, ha, hbonus, hprevious, rfl⟩
    refine ⟨(hmarked _).2 ⟨a, ha, hbonus, rfl⟩, fun b a' hb htime hmark => ?_⟩
    obtain rfl := hinj a' (hb.subset (by simp)) a ha htime
    obtain ⟨b', hb', hbonus', htime'⟩ := (hmarked _).1 hmark
    obtain rfl := hinj b' hb' b (hb.subset (by simp)) htime'
    exact hprevious b' hb hbonus'
  · rintro ⟨hmark, hprevious⟩
    obtain ⟨a, ha, hbonus, rfl⟩ := (hmarked _).1 hmark
    exact ⟨a, ha, hbonus, fun b hb hbonus' => hprevious b a hb rfl
      ((hmarked _).2 ⟨b, hb.subset (by simp), hbonus', rfl⟩), rfl⟩

/-- The events are shown in the order of their times. -/
theorem deriveTimelineEvents_chronological : (deriveTimelineEvents toFixed1 toFixed2 rows).Pairwise
    fun e e' => getTime e.timestamp ≤ getTime e'.timestamp := by
  have htotal : Std.Total fun a b : TimelineEvent => getTime a.timestamp ≤ getTime b.timestamp :=
    ⟨fun a b => le_total _ _⟩
  have htrans : IsTrans TimelineEvent fun a b => getTime a.timestamp ≤ getTime b.timestamp :=
    ⟨fun _ _ _ hab hbc => hab.trans hbc⟩
  rw [deriveTimelineEvents_eq]
  exact List.pairwise_insertionSort _ _

end

/-! ## The cursor -/

section
variable {R Uuid : Type}

/-- The milliseconds of a row. -/
def rowTime (a : RiskAssessment R Uuid) : Int := getTime a.timestamp

theorem assessmentAtOrBefore_eq (history : List (RiskAssessment R Uuid)) (atTime : Int) :
    assessmentAtOrBefore history atTime = atOrBefore rowTime history atTime := by
  unfold assessmentAtOrBefore atOrBefore
  rw [List.argmax, List.foldl_filter]
  congr 1
  funext best item
  by_cases h : getTime item.timestamp ≤ atTime
  · cases best with
    | none => simp [List.argAux, rowTime, h]
    | some best =>
      simp only [List.argAux, rowTime, h, true_and, Option.all_some, decide_eq_true_eq, decide_true,
        if_true]
      congr
  · simp [rowTime, h]

variable [Field R] [LinearOrder R] {toFixed1 toFixed2 : R → String} {rows : List (RiskAssessment R Uuid)}

/-- The tier changes are the pairs of consecutive rows with different tiers. -/
theorem exists_tierChange_iff
    (hrows : rows.Pairwise fun a b => getTime a.timestamp < getTime b.timestamp) {t : Int} {label : String} :
    (∃ e ∈ deriveTimelineEvents toFixed1 toFixed2 rows,
      e.kind = .tierChange ∧ getTime e.timestamp = t ∧ e.label = label) ↔
        ∃ a b, ([a, b] <:+: rows ∧ rowTime b = t) ∧ a.tier ≠ b.tier ∧
          label = s!"{a.tier.str.toUpper} → {b.tier.str.toUpper}" := by
  have hmem : ∀ e, e ∈ deriveTimelineEvents toFixed1 toFixed2 rows ∧ e.kind = .tierChange ↔
      ∃ a b, [a, b] <:+: rows ∧ b.tier ≠ a.tier ∧ e = ⟨b.timestamp, .tierChange,
        s!"{a.tier.str.toUpper} → {b.tier.str.toUpper}"⟩ := by
    intro e
    have hfilter : e ∈ deriveTimelineEvents toFixed1 toFixed2 rows ∧ e.kind = .tierChange ↔
        e ∈ (deriveTimelineEvents toFixed1 toFixed2 rows).filter (·.kind = .tierChange) := by simp
    rw [hfilter, filter_deriveTimelineEvents _ hrows, filter_rawEvents, if_neg (by simp), List.mem_flatMap]
    constructor
    · rintro ⟨⟨previous, b⟩, hstep, he⟩
      rw [(filter_emitted previous b).1] at he
      cases previous with
      | none => cases he
      | some a =>
        rw [Option.map_some, tierEvents] at he
        split at he
        · rename_i hne
          refine ⟨a, b, mem_steps.1 hstep, hne, ?_⟩
          split at he <;> simpa using he
        · cases he
    · rintro ⟨a, b, hstep, hne, rfl⟩
      refine ⟨(some a, b), mem_steps.2 hstep, ?_⟩
      rw [(filter_emitted (some a) b).1, Option.map_some, tierEvents, if_pos hne]
      simp
  constructor
  · rintro ⟨e, he, hkind, rfl, rfl⟩
    obtain ⟨a, b, hab, hne, rfl⟩ := (hmem e).1 ⟨he, hkind⟩
    exact ⟨a, b, ⟨hab, rfl⟩, Ne.symm hne, rfl⟩
  · rintro ⟨a, b, ⟨hab, rfl⟩, hne, rfl⟩
    obtain ⟨he, hkind⟩ := (hmem _).2 ⟨a, b, hab, Ne.symm hne, rfl⟩
    exact ⟨_, he, hkind, rfl, rfl⟩

/-- The tier changes are the jumps of the tier under the cursor. -/
theorem tierChange_iff_jump
    (hrows : rows.Pairwise fun a b => getTime a.timestamp < getTime b.timestamp)
    {page : List (RiskAssessment R Uuid)} (hpage : page.Perm rows) {t : Int} {label : String} :
    (∃ e ∈ deriveTimelineEvents toFixed1 toFixed2 rows,
      e.kind = .tierChange ∧ getTime e.timestamp = t ∧ e.label = label) ↔
        ∃ a b, assessmentAtOrBefore page (t - 1) = some a ∧ assessmentAtOrBefore page t = some b ∧
          a.tier ≠ b.tier ∧ label = s!"{a.tier.str.toUpper} → {b.tier.str.toUpper}" := by
  have hnodup : (page.map rowTime).Nodup :=
    (hpage.map rowTime).nodup_iff.2 (List.pairwise_map.2 (hrows.imp fun hlt => hlt.ne))
  have hbefore : assessmentAtOrBefore page (t - 1) = before rowTime rows t := by
    rw [assessmentAtOrBefore_eq, atOrBefore_perm hnodup hpage, atOrBefore, before]
    simp only [Int.le_sub_one_iff]
  rw [exists_tierChange_iff hrows, hbefore, assessmentAtOrBefore_eq, atOrBefore_perm hnodup hpage]
  refine exists_congr fun a => exists_congr fun b => ?_
  have htimes : rows.Pairwise fun a b => rowTime a < rowTime b := hrows
  rw [← jump_iff htimes t]
  constructor
  · rintro ⟨⟨ha, hb, -⟩, hne, hlabel⟩
    exact ⟨ha, hb, hne, hlabel⟩
  · rintro ⟨ha, hb, hne, hlabel⟩
    exact ⟨⟨ha, hb, fun heq => hne (congrArg RiskAssessment.tier heq)⟩, hne, hlabel⟩

end

/-! ## The history of a run -/

section
variable {R Uuid : Type} [Field R] [LinearOrder R] [DecidableEq Uuid] [IsStrictOrderedRing R]

/-- **Three views of a run agree**: over any page of a zone's history whose rows are those of a run of ticks
at increasing milliseconds, the operator timeline is chronological; it has the tier changes and the entries
into `critical` of the replay's bookmarks, but for the first row of the page, and their peak; of consecutive
bookmarks of a bonus it shows the first; and its tier changes are exactly the times at which the assessment
under the playback cursor changes its tier. -/
theorem timeline_told (M : Math R) (T : Text R Uuid) (zoneId : Uuid) {db db' : Db R Uuid}
    {cache : Scheduler.AgentCache R} {tierState : TierState R} (ticks : List (StoryTick R Uuid))
    (h : Story M T zoneId db cache tierState ticks db')
    (hinc : (ticks.map fun t => getTime t.simTime.instant).Pairwise (· < ·)) (limit : Nat)
    (before after : Option Instant)
    (hrows : ∀ a ∈ RiskAssessmentRepository.matching db' zoneId before after,
      a ∈ ticks.map StoryTick.row)
    (toFixed1 toFixed2 floatStr1 : R → String) (permits : List (Permit R Uuid)) :
    let page := RiskAssessmentRepository.historyByZone db' zoneId limit before after
    let rows := page.reverse
    let events := deriveTimelineEvents toFixed1 toFixed2 rows
    let shown (kind : TimelineEventKind) : List Instant :=
      (events.filter (·.kind = kind)).map TimelineEvent.timestamp
    let bookmarked (kind : BookmarkKind) (rows : List (RiskAssessment R Uuid)) : List Instant :=
      ((detectBookmarks T floatStr1 zoneId rows permits).filter (·.kind = kind)).map
        ReplayBookmark.timestamp
    (events.Pairwise fun e e' => getTime e.timestamp ≤ getTime e'.timestamp) ∧
    shown .tierChange = bookmarked .tierChange rows.tail ∧
    shown .critical = bookmarked .critical rows.tail ∧
    shown .highestRisk = bookmarked .highestRisk rows ∧
    (∀ t, t ∈ shown .interactionBonus ↔ t ∈ bookmarked .interactionBonus rows ∧
      ∀ b a, [b, a] <:+: rows → a.timestamp = t →
        b.timestamp ∉ bookmarked .interactionBonus rows) ∧
    ∀ t label, (∃ e ∈ events, e.kind = .tierChange ∧ getTime e.timestamp = t ∧ e.label = label) ↔
      ∃ a b, assessmentAtOrBefore page (t - 1) = some a ∧ assessmentAtOrBefore page t = some b ∧
        a.tier ≠ b.tier ∧ label = s!"{a.tier.str.toUpper} → {b.tier.str.toUpper}" := by
  intro page rows events shown bookmarked
  have htold := h.told
  have hlt : ∀ {s t : Int}, getTime s < getTime t → s < t := fun hlt => by
    unfold getTime at hlt
    omega
  have hinstants : (ticks.map fun t => t.simTime.instant).Pairwise (· < ·) :=
    List.pairwise_map.2 ((List.pairwise_map.1 hinc).imp hlt)
  have hpage : rows <:+: ticks.map StoryTick.row := page_reverse_stretch h hinstants limit hrows
  have hchain : rows.IsChain Follows := List.IsChain.infix (isChain_of_chained h.chained) hpage
  have hsorted : rows.Pairwise fun a b => getTime a.timestamp < getTime b.timestamp := by
    refine List.Pairwise.sublist hpage.sublist (List.pairwise_map.2 ?_)
    refine (List.pairwise_map.1 hinc).imp_of_mem fun {t t'} ht ht' hlt => ?_
    obtain ⟨f, hf⟩ := htold t ht
    obtain ⟨f', hf'⟩ := htold t' ht'
    rwa [hf.timestamp, hf'.timestamp]
  exact ⟨deriveTimelineEvents_chronological, timestamps_tierChange hsorted hchain,
    timestamps_critical hsorted hchain, timestamps_peak hsorted, fun t => bonus_shown_iff hsorted,
    fun t label => tierChange_iff_jump hsorted (List.reverse_perm page).symm⟩

end

/-- Of gas that comes, goes and comes again. -/
theorem timeline_told_gasPlant :
    let page := RiskAssessmentRepository.historyByZone gasPlantRun.2 1 50 none none
    let rows := page.reverse
    let events := deriveTimelineEvents (fun _ => "") (fun _ => "") rows
    let shown (kind : TimelineEventKind) : List Instant :=
      (events.filter (·.kind = kind)).map TimelineEvent.timestamp
    let bookmarked (kind : BookmarkKind) : List Instant :=
      ((detectBookmarks plainText (fun _ => "") 1 rows []).filter (·.kind = kind)).map
        ReplayBookmark.timestamp
    (events.Pairwise fun e e' => getTime e.timestamp ≤ getTime e'.timestamp) ∧
    shown .tierChange = [60000000, 180000000, 300000000] ∧
    shown .critical = [60000000, 300000000] ∧
    shown .highestRisk = [0] ∧
    (∀ t, t ∈ shown .interactionBonus ↔ t ∈ bookmarked .interactionBonus ∧
      ∀ b a, [b, a] <:+: rows → a.timestamp = t → b.timestamp ∉ bookmarked .interactionBonus) ∧
    ∃ e ∈ events, e.kind = .tierChange ∧ getTime e.timestamp = 60000 ∧
      e.label = "NORMAL → CRITICAL" := by
  obtain ⟨ticks, hstory, hrows, htimes, -⟩ := gasPlant_story
  have hmilliseconds : (ticks.map fun t => getTime t.simTime.instant) =
      [0, 60000, 120000, 180000, 240000, 300000] := by
    simpa [getTime, Function.comp_def] using congrArg (List.map getTime) htimes
  obtain ⟨hordered, htier, hcritical, hpeak, hbonus, hjump⟩ := timeline_told Math.dyadic plainText 1
    ticks hstory (by rw [hmilliseconds]; decide) 50 none none
    (fun a ha => hrows a (List.mem_of_mem_filter ha)) (fun _ => "") (fun _ => "") (fun _ => "") []
  refine ⟨hordered, htier.trans (by decide +kernel), hcritical.trans (by decide +kernel),
    hpeak.trans (by decide +kernel), hbonus, (hjump 60000 _).2 ?_⟩
  -- the tiers under the cursor
  have hcursor : (let page := RiskAssessmentRepository.historyByZone gasPlantRun.2 1 50 none none
      ((assessmentAtOrBefore page 59999).map RiskAssessment.tier,
        (assessmentAtOrBefore page 60000).map RiskAssessment.tier)) =
      (some .normal, some .critical) := by decide +kernel
  obtain ⟨ha, hb⟩ := Prod.mk.inj hcursor
  obtain ⟨a, ha, htier⟩ := Option.map_eq_some_iff.1 ha
  obtain ⟨b, hb, htier'⟩ := Option.map_eq_some_iff.1 hb
  refine ⟨a, b, ha, hb, ?_, ?_⟩ <;> rw [htier, htier']
  · decide
  · decide +kernel

end Frontend
