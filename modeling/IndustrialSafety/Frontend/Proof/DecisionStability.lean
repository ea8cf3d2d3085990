import IndustrialSafety.Db.Proof.Pagination
import IndustrialSafety.Frontend.DecisionStability
import IndustrialSafety.Frontend.Proof.ActionPlaybook
import IndustrialSafety.Orchestrator.Proof.Tiering
import IndustrialSafety.Services.Proof.Story

/-!
# Decision stability over the history of a run

The rows of a run record a debounced tier (`Recorded`), and a page of the zone's history is a stretch of
them. So the client sees at most one turn of the tier in every `dwellTicks` rows, two turns only where the
score swung by the de-escalation margin, and an unchanged recommendation only while the tier has held
(`stability_told`).
-/

namespace Frontend

open Py RiskFormula Tiering Replay RiskPipeline

/-! ## The loop -/

/-- The loop over the ranks that follow `previous`. -/
def scan (trend : Trend) (previous : Int) : List Int → Trend
  | [] => trend
  | rank :: ranks => scan (trend.step (previous, rank)) rank ranks

theorem foldl_zip_eq_scan (trend : Trend) (previous : Int) (ranks : List Int) :
    ((previous :: ranks).zip ranks).foldl Trend.step trend = scan trend previous ranks := by
  induction ranks generalizing trend previous with
  | nil => rfl
  | cons rank ranks ih =>
    rw [List.zip_cons_cons, List.foldl_cons]
    exact ih (trend.step (previous, rank)) rank

theorem direction_eq_zero {previous rank : Int} : direction previous rank = 0 ↔ rank = previous := by
  unfold direction
  dsimp only
  split
  · simp only [one_ne_zero, false_iff]; omega
  · split
    · simp only [neg_eq_zero, one_ne_zero, false_iff]; omega
    · simp only [true_iff]; omega

theorem direction_eq_one {previous rank : Int} : direction previous rank = 1 ↔ previous < rank := by
  unfold direction
  dsimp only
  split
  · simp only [true_iff]; omega
  · split <;> simp <;> omega

theorem direction_eq_neg_one {previous rank : Int} :
    direction previous rank = -1 ↔ rank < previous := by
  unfold direction
  dsimp only
  split
  · simp; omega
  · split <;> simp <;> omega

/-- The runs in one direction so far: the reversals, and the first run. -/
def Trend.runs (trend : Trend) : Nat :=
  trend.reversals + if trend.lastDirection = 0 then 0 else 1

theorem runs_step (trend : Trend) (previous rank : Int) :
    (trend.step (previous, rank)).runs ≤ trend.runs + if rank = previous then 0 else 1 := by
  unfold Trend.step
  dsimp only
  by_cases h : rank = previous
  · simp [direction_eq_zero.2 h]
  · have hd : direction previous rank ≠ 0 := fun e => h (direction_eq_zero.1 e)
    simp only [Trend.runs, if_pos hd, hd, h, if_false]
    split <;> split <;> simp_all

/-- Every run in one direction starts with a change. -/
theorem runs_scan (trend : Trend) (previous : Int) (ranks : List Int) :
    (scan trend previous ranks).runs ≤ trend.runs + Debounce.changes previous ranks := by
  induction ranks generalizing trend previous with
  | nil => simp [scan, Debounce.changes]
  | cons rank ranks ih =>
    have h1 := runs_step trend previous rank
    have h2 := ih (trend.step (previous, rank)) rank
    rw [scan, Debounce.changes]
    omega

/-- No reversal without a direction. -/
theorem directed_step {trend : Trend} (h : trend.lastDirection = 0 → trend.reversals = 0)
    (ranks : Int × Int) :
    (trend.step ranks).lastDirection = 0 → (trend.step ranks).reversals = 0 := by
  unfold Trend.step
  dsimp only
  split
  · rename_i hd
    exact fun e => absurd e hd
  · exact h

/-! ## The rows of consecutive ticks -/

section
variable {R Uuid : Type} [Field R] [LinearOrder R] {config : TieringConfig R}

/-- The rows of consecutive ticks that start in a tier state, oldest first. -/
inductive Recorded (config : TieringConfig R) : TierState R → List (RiskAssessment R Uuid) → Prop
  | nil (s : TierState R) : Recorded config s []
  | cons {s : TierState R} {a : RiskAssessment R Uuid} {rows : List (RiskAssessment R Uuid)}
      (f : FusionResult R Uuid) : a.tier = (transition s f config).currentTier →
      a.compoundRiskScore = f.compoundRiskScore → Recorded config (transition s f config) rows →
      Recorded config s (a :: rows)

variable {s : TierState R} {rows : List (RiskAssessment R Uuid)}

theorem Recorded.prefix {before after : List (RiskAssessment R Uuid)}
    (h : Recorded config s (before ++ after)) : Recorded config s before := by
  induction before generalizing s with
  | nil => exact .nil s
  | cons a before ih =>
    cases h with
    | cons f htier hscore hrest => exact .cons f htier hscore (ih hrest)

/-- Where later rows start. -/
theorem Recorded.suffix {before after : List (RiskAssessment R Uuid)}
    (h : Recorded config s (before ++ after)) :
    ∃ past : List (FusionResult R Uuid), Recorded config (run config s past) after := by
  induction before generalizing s with
  | nil => exact ⟨[], h⟩
  | cons a before ih =>
    cases h with
    | cons f _ _ hrest =>
      obtain ⟨past, hpast⟩ := ih hrest
      exact ⟨f :: past, hpast⟩

/-- The tiers are those of a debounced run. -/
theorem Recorded.selections (h : Recorded config s rows) (hs : Coherent config s) :
    ∃ fs : List (FusionResult R Uuid), rows.map RiskAssessment.tier =
      Debounce.selections config.dwellTicks (candidateFor config) (debounce s) fs := by
  induction h with
  | nil => exact ⟨[], rfl⟩
  | @cons s a rows f htier _ _ ih =>
    obtain ⟨fs, hfs⟩ := ih (transition_coherent hs f)
    refine ⟨f :: fs, ?_⟩
    rw [List.map_cons, hfs, htier, Debounce.selections, ← transition_debounce hs f]
    rfl

end

/-! ## Turns cost ticks -/

section
variable {R Uuid : Type} [Field R] [LinearOrder R] {config : TieringConfig R}

theorem tierRank_injective : Function.Injective tierRank := fun _ _ h =>
  rank_injective (Int.ofNat.inj h)

omit [Field R] [LinearOrder R] in
/-- The loop starts with the oldest row. -/
theorem reversals_eq {page rows : List (RiskAssessment R Uuid)} {a : RiskAssessment R Uuid}
    (h : page.reverse = a :: rows) : (detectOscillation page).reversals =
      (scan ⟨0, 0⟩ (tierRank a.tier) (rows.map fun b => tierRank b.tier)).reversals := by
  rw [detectOscillation, h, ← foldl_zip_eq_scan]
  rfl

theorem directed_scan {trend : Trend} (h : trend.lastDirection = 0 → trend.reversals = 0)
    (previous : Int) (ranks : List Int) : (scan trend previous ranks).lastDirection = 0 →
      (scan trend previous ranks).reversals = 0 := by
  induction ranks generalizing trend previous with
  | nil => exact h
  | cons rank ranks ih => exact ih (directed_step h _) rank

/-- **Every turn of the tier takes `dwellTicks` rows.** -/
theorem Recorded.reversals_le {past : List (FusionResult R Uuid)}
    {page : List (RiskAssessment R Uuid)} (hd : 1 ≤ config.dwellTicks)
    (h : Recorded config (run config TierState.initial past) page.reverse)
    (hturn : (detectOscillation page).reversals ≠ 0) :
    config.dwellTicks * (detectOscillation page).reversals + 2 ≤ page.length := by
  cases hrows : page.reverse with
  | nil => simp [List.reverse_eq_nil_iff.1 hrows, detectOscillation] at hturn
  | cons a rows =>
    rw [reversals_eq hrows] at hturn ⊢
    rw [hrows] at h
    cases h with
    | cons f htier _ hrest =>
      -- after the oldest row less than `dwellTicks` observations are pending
      have hstate : transition (run config TierState.initial past) f config =
          run config TierState.initial (past ++ [f]) := by simp [run, List.foldl_append]
      rw [hstate] at htier hrest
      have hpending := (debounce_wf hd (past ++ [f])).ticksLt
      obtain ⟨fs, hfs⟩ := hrest.selections (run_coherent initial_coherent _)
      have hcost := Debounce.changes_selections_le config.dwellTicks (candidateFor config)
        (debounce (run config TierState.initial (past ++ [f]))) fs
      have hlength : rows.length = fs.length := by simpa using congrArg List.length hfs
      have hstart : (debounce (run config TierState.initial (past ++ [f]))).current = a.tier :=
        htier.symm
      rw [← hfs, hstart, ← Debounce.changes_map tierRank_injective, List.map_map, ← hlength] at hcost
      -- one run in a direction more than turns, and a change for each run
      have hruns := runs_scan ⟨0, 0⟩ (tierRank a.tier) (rows.map fun b => tierRank b.tier)
      have hdirected : (scan ⟨0, 0⟩ (tierRank a.tier) (rows.map fun b => tierRank b.tier)).lastDirection
          ≠ 0 := mt (directed_scan (fun _ => rfl) _ _) hturn
      rw [Trend.runs, if_neg hdirected, show Trend.runs ⟨0, 0⟩ = 0 from rfl, Nat.zero_add] at hruns
      have hmul := (Nat.mul_le_mul_left config.dwellTicks hruns).trans (le_of_add_le_left hcost)
      have hpage : page.length = rows.length + 1 := by simpa using congrArg List.length hrows
      rw [Nat.mul_add] at hmul
      have hticks : (debounce (run config TierState.initial (past ++ [f]))).ticks < _ := hpending
      omega

end

/-- The bound is tight: two turns in six rows. -/
example : (List.range 6).map (fun n => (run TieringConfig.default TierState.initial
      (([50, 50, 0, 0, 50, 50].take (n + 1)).map scored)).currentTier) =
        [.normal, .watch, .watch, .normal, .normal, .watch] ∧
    (scan ⟨0, 0⟩ (tierRank .normal) ([.watch, .watch, .normal, .normal, .watch].map tierRank)).reversals =
      2 := by
  decide +kernel

/-! ## Turns cost score -/

section
variable {R Uuid : Type} [Field R] [LinearOrder R] {config : TieringConfig R}

/-- What a tick does to the tier. -/
theorem transition_tier {s : TierState R} (hs : Coherent config s) (f : FusionResult R Uuid) :
    (transition s f config).currentTier = s.currentTier ∨
      IsCandidate config s.currentTier f.compoundRiskScore (transition s f config).currentTier := by
  have hc : candidate s.currentTier s.entryThreshold f.compoundRiskScore config =
      candidateFor config s.currentTier f := by rw [candidateFor, ← hs]
  unfold transition
  rw [hc]
  cases h : candidateFor config s.currentTier f with
  | none => exact .inl rfl
  | some c =>
    dsimp only
    split <;> split
    case isTrue.isTrue | isFalse.isTrue => exact .inr (candidateFor_eq_some.1 h)
    case isTrue.isFalse | isFalse.isFalse => exact .inl rfl

theorem threshold_rawBand_le {score : R} (h : 0 < (determineRawBand score config).rank) :
    thresholdForTier (determineRawBand score config) config ≤ score := by
  unfold determineRawBand at h ⊢
  split
  · assumption
  · split
    · assumption
    · split
      · assumption
      · rename_i h1 h2 h3
        simp [h1, h2, h3, Tier.rank] at h

theorem step_same {trend : Trend} {previous rank : Int} (h : previous = rank) :
    trend.step (previous, rank) = trend := by
  simp [Trend.step, direction_eq_zero.2 h.symm]

theorem step_up {trend : Trend} {previous rank : Int} (h : previous < rank) :
    trend.step (previous, rank) =
      ⟨if trend.lastDirection ≠ 0 ∧ 1 ≠ trend.lastDirection then trend.reversals + 1
        else trend.reversals, 1⟩ := by
  simp [Trend.step, direction_eq_one.2 h]

theorem step_down {trend : Trend} {previous rank : Int} (h : rank < previous) :
    trend.step (previous, rank) =
      ⟨if trend.lastDirection ≠ 0 ∧ -1 ≠ trend.lastDirection then trend.reversals + 1
        else trend.reversals, -1⟩ := by
  simp [Trend.step, direction_eq_neg_one.2 h]

/-- Two rows, the older one first, whose scores fell by the de-escalation margin. -/
def Swing (config : TieringConfig R) (rows : List (RiskAssessment R Uuid)) : Prop :=
  ∃ a b, [a, b].Sublist rows ∧ b.compoundRiskScore ≤ a.compoundRiskScore - config.deEscalationMargin

/-- What the loop knows of the rows it has seen, the tier state being that of the last. -/
structure Seen (config : TieringConfig R) (s : TierState R) (trend : Trend)
    (seen : List (RiskAssessment R Uuid)) : Prop where
  sign : trend.lastDirection = -1 ∨ trend.lastDirection = 0 ∨ trend.lastDirection = 1
  undirected : trend.lastDirection = 0 → trend.reversals = 0
  entered : trend.lastDirection = 1 →
    ∃ a ∈ seen, thresholdForTier s.currentTier config ≤ a.compoundRiskScore
  fallen : trend.lastDirection = -1 → trend.reversals ≠ 0 → Swing config seen
  turned : 2 ≤ trend.reversals → Swing config seen

theorem Seen.step [IsStrictOrderedRing R] {s : TierState R} {trend : Trend} {seen : List (RiskAssessment R Uuid)}
    (h : Seen config s trend seen) (hs : Coherent config s) (f : FusionResult R Uuid)
    {a : RiskAssessment R Uuid} (htier : a.tier = (transition s f config).currentTier)
    (hscore : a.compoundRiskScore = f.compoundRiskScore) :
    Seen config (transition s f config) (trend.step (tierRank s.currentTier, tierRank a.tier))
      (seen ++ [a]) := by
  have hmono : Swing config seen → Swing config (seen ++ [a]) := fun ⟨b, c, hbc, hle⟩ =>
    ⟨b, c, hbc.trans (List.sublist_append_left seen [a]), hle⟩
  have hkeep : ∀ {p : RiskAssessment R Uuid → Prop}, (∃ b ∈ seen, p b) → ∃ b ∈ seen ++ [a], p b :=
    fun ⟨b, hb, hpb⟩ => ⟨b, List.mem_append_left _ hb, hpb⟩
  have hcandidate : tierRank a.tier ≠ tierRank s.currentTier →
      IsCandidate config s.currentTier a.compoundRiskScore a.tier := by
    intro hne
    rcases transition_tier hs f with hsame | hc
    · exact absurd (congrArg tierRank (htier.trans hsame)) hne
    · rwa [← htier, ← hscore] at hc
  have hstate : (transition s f config).currentTier = a.tier := htier.symm
  rcases lt_trichotomy (tierRank s.currentTier) (tierRank a.tier) with hup | hsame | hdown
  · -- the score is at the threshold of the tier it enters
    obtain ⟨hband, -⟩ := hcandidate hup.ne'
    have hentered : thresholdForTier a.tier config ≤ a.compoundRiskScore := by
      rw [hband]
      refine threshold_rawBand_le (Nat.pos_of_ne_zero fun h0 => ?_)
      rw [← hband] at h0
      simp [tierRank, h0] at hup
      omega
    rw [step_up hup]
    refine ⟨.inr (.inr rfl), fun h1 => absurd h1 one_ne_zero,
      fun _ => ⟨a, by simp, by rwa [hstate]⟩, fun h1 => absurd h1 (by simp), fun h2 => hmono ?_⟩
    dsimp only at h2
    split at h2
    · rename_i hturn
      refine h.fallen ?_ (by omega)
      rcases h.sign with hs | hs | hs
      · exact hs
      · exact absurd hs hturn.1
      · exact absurd hs.symm hturn.2
    · exact h.turned h2
  · rw [step_same hsame]
    refine ⟨h.sign, h.undirected, fun h1 => ?_, fun h1 h2 => hmono (h.fallen h1 h2),
      fun h2 => hmono (h.turned h2)⟩
    rw [hstate, ← tierRank_injective hsame]
    exact hkeep (h.entered h1)
  · -- the score is below the threshold of the tier it leaves, by the margin
    obtain ⟨-, hup | ⟨-, hleft⟩⟩ := hcandidate hdown.ne
    · exact absurd (Int.ofNat_lt.2 hup) (lt_asymm hdown)
    have hfall : trend.lastDirection = 1 → Swing config (seen ++ [a]) := by
      intro h1
      obtain ⟨b, hb, hthreshold⟩ := h.entered h1
      exact ⟨b, a, (List.singleton_sublist.2 hb).append (List.Sublist.refl [a]),
        hleft.trans (sub_le_sub_right hthreshold _)⟩
    rw [step_down hdown]
    have hturned : (if trend.lastDirection ≠ 0 ∧ -1 ≠ trend.lastDirection then trend.reversals + 1
        else trend.reversals) ≠ 0 → Swing config (seen ++ [a]) := by
      rcases h.sign with hsign | hsign | hsign
      · simpa [hsign] using fun h2 => hmono (h.fallen hsign h2)
      · simp [hsign, h.undirected hsign]
      · exact fun _ => hfall hsign
    exact ⟨.inl rfl, fun h1 => absurd h1 (by simp), fun h1 => absurd h1 (by simp),
      fun _ h2 => hturned h2, fun h2 => hturned (Nat.ne_of_gt (Nat.zero_lt_of_lt h2))⟩

theorem Seen.scan [IsStrictOrderedRing R] {s : TierState R} {trend : Trend}
    {seen rows : List (RiskAssessment R Uuid)} (h : Seen config s trend seen)
    (hs : Coherent config s) (hrows : Recorded config s rows)
    (hturned : 2 ≤ (Frontend.scan trend (tierRank s.currentTier)
      (rows.map fun b => tierRank b.tier)).reversals) : Swing config (seen ++ rows) := by
  induction hrows generalizing trend seen with
  | nil => simpa using h.turned hturned
  | @cons s a rows f htier hscore _ ih =>
    rw [List.map_cons, Frontend.scan] at hturned
    rw [← List.singleton_append, ← List.append_assoc]
    refine ih (h.step hs f htier hscore) (transition_coherent hs f) ?_
    rwa [← htier]

/-- **Two turns of the tier need a swing of the score.** -/
theorem Recorded.swing [IsStrictOrderedRing R] {s : TierState R} {page : List (RiskAssessment R Uuid)}
    (h : Recorded config s page.reverse) (hs : Coherent config s)
    (hdetected : (detectOscillation page).detected) : Swing config page.reverse := by
  have hturned : 2 ≤ (detectOscillation page).reversals := of_decide_eq_true hdetected
  cases hrows : page.reverse with
  | nil => simp [List.reverse_eq_nil_iff.1 hrows, detectOscillation] at hturned
  | cons a rows =>
    rw [reversals_eq hrows] at hturned
    rw [hrows] at h
    cases h with
    | cons f htier _ hrest =>
      have hfirst : Seen config (transition s f config) ⟨0, 0⟩ [a] :=
        ⟨.inr (.inl rfl), fun _ => rfl, fun h1 => absurd h1 (by simp), fun h1 => absurd h1 (by simp),
          fun h2 => absurd h2 (by simp)⟩
      rw [htier] at hturned
      exact hfirst.scan (transition_coherent hs f) hrest hturned

end

/-! ## The unchanged recommendation -/

section
variable {R Uuid : Type} [Field R]

/-- The client parses what the server serializes. -/
theorem parseJustification_serialize (j : Justification.RiskAssessmentJustification R) :
    parseJustification (JustificationCodec.serializeJustification j) =
      some ⟨.ofPersisted j, j.schemaVersion, j.interactionBonusApplied, j.tierBefore.str,
        j.tierAfter.str⟩ := by
  have hrules : (j.rulesFired.map (Json.string : String → Json R)).filterMap Json.string? = j.rulesFired := by
    simp [List.filterMap_map, Function.comp_def, Json.string?]
  have hcontributions : (j.agentContributions.map JustificationCodec.serializeContribution).mapM
      (fun p : String × Json R => do pure (p.1, ← asAgentContribution p.2)) =
        some (RiskJustification.ofPersisted j).agentContributions := by
    rw [List.mapM_map]
    exact Option.mapM_eq_some_map fun _ _ => rfl
  have hfields : parseJustification (JustificationCodec.serializeJustification j) =
      ((j.agentContributions.map JustificationCodec.serializeContribution).mapM
        (fun p : String × Json R => do pure (p.1, ← asAgentContribution p.2))).bind fun contributions =>
          some ⟨⟨(j.rulesFired.map Json.string).filterMap Json.string?, contributions⟩,
            j.schemaVersion, j.interactionBonusApplied, j.tierBefore.str, j.tierAfter.str⟩ := rfl
  rw [hfields, hcontributions, hrules]
  rfl

theorem topRecommendationId_eq (a : RiskAssessment R Uuid) : topRecommendationId a =
    (deriveRecommendations a.tier (some a.justification.rulesFired)).head?.bind Entry.id := by
  unfold topRecommendationId justificationOf
  rw [parseJustification_serialize]
  rfl

theorem prefix_foldl_pushRule (recommendations : List Entry) (rules : List String) :
    recommendations <+: rules.foldl pushRule recommendations := by
  induction rules generalizing recommendations with
  | nil => exact List.prefix_rfl
  | cons rule rules ih =>
    refine List.IsPrefix.trans ?_ (ih _)
    unfold pushRule
    split
    · exact List.prefix_rfl
    · split
      · exact List.prefix_rfl
      · exact List.prefix_append _ _

/-- An entry is an old one, or that of a rule. -/
theorem of_mem_foldl_pushRule {entry : Entry} {recommendations : List Entry} {rules : List String}
    (h : entry ∈ rules.foldl pushRule recommendations) :
    entry ∈ recommendations ∨ ∃ rule, lookupRule rule = some entry := by
  induction rules generalizing recommendations with
  | nil => exact .inl h
  | cons rule rules ih =>
    rcases ih h with hpush | hrule
    · unfold pushRule at hpush
      split at hpush
      · exact .inl hpush
      · rename_i found hfound
        split at hpush
        · exact .inl hpush
        · rcases List.mem_append.1 hpush with hold | hnew
          · exact .inl hold
          · exact .inr ⟨rule, List.mem_singleton.1 hnew ▸ hfound⟩
    · exact .inr hrule

/-- A tier with a baseline has it on top. -/
theorem topRecommendationId_baseline {a : RiskAssessment R Uuid} {r : Recommendation}
    (h : tierBaseline a.tier = some r) : topRecommendationId a = some r.id := by
  rw [topRecommendationId_eq, deriveRecommendations, h]
  obtain ⟨rest, hrest⟩ := prefix_foldl_pushRule [Entry.recommendation r] a.justification.rulesFired
  exact congrArg (fun l : List Entry => l.head?.bind Entry.id) hrest.symm

/-- No rule has the id of a baseline. -/
theorem topRecommendationId_rule {a : RiskAssessment R Uuid} (h : tierBaseline a.tier = none)
    {tier : Tier} {r : Recommendation} (hr : tierBaseline tier = some r) :
    topRecommendationId a ≠ some r.id := by
  intro htop
  rw [topRecommendationId_eq, deriveRecommendations, h] at htop
  obtain ⟨entry, hhead, hid⟩ := Option.bind_eq_some_iff.1 htop
  obtain ⟨rule, hrule⟩ := (of_mem_foldl_pushRule (List.mem_of_mem_head? hhead)).resolve_left
    (by simp)
  cases entry with
  | inherited => cases hid
  | recommendation r' =>
    have hall : ∀ p ∈ ruleRecommendations, ∀ tier, ∀ r ∈ tierBaseline tier, p.2.id ≠ r.id := by
      intro p hp tier
      cases tier <;> revert p <;> decide
    exact hall _ (mem_ruleRecommendations hrule) tier r hr (Option.some.inj hid)

/-- **One top recommendation, one tier.** -/
theorem tier_eq_of_topRecommendationId {a b : RiskAssessment R Uuid}
    (h : topRecommendationId a = topRecommendationId b) : a.tier = b.tier := by
  have hids : ∀ tier tier' : Tier, (tierBaseline tier).map Recommendation.id =
      (tierBaseline tier').map Recommendation.id → tier = tier' := by
    intro tier tier'
    cases tier <;> cases tier' <;> decide
  refine hids _ _ ?_
  cases ha : tierBaseline a.tier with
  | none =>
    cases hb : tierBaseline b.tier with
    | none => rfl
    | some r => exact absurd (h.trans (topRecommendationId_baseline hb)) (topRecommendationId_rule ha hb)
  | some r =>
    rw [topRecommendationId_baseline ha] at h
    cases hb : tierBaseline b.tier with
    | none => exact absurd h.symm (topRecommendationId_rule hb ha)
    | some r' => exact h.trans (topRecommendationId_baseline hb)

/-- The newest rows with the top recommendation of the latest have its tier. -/
theorem tier_of_unchanged {page : List (RiskAssessment R Uuid)} {a latest : RiskAssessment R Uuid}
    (ha : a ∈ page.take (countUnchangedRecommendationTicks page)) (hlatest : latest ∈ page.head?) :
    a.tier = latest.tier := by
  cases page with
  | nil => cases hlatest
  | cons b rows =>
    cases hlatest
    rw [countUnchangedRecommendationTicks,
      ← List.prefix_iff_eq_take.1 (List.takeWhile_prefix _)] at ha
    exact tier_eq_of_topRecommendationId (by simpa using List.mem_takeWhile_imp ha)

/-- Above `normal` the count is that of the rows since the tier was entered. -/
theorem countUnchanged_eq {page : List (RiskAssessment R Uuid)} {latest : RiskAssessment R Uuid}
    (hlatest : latest ∈ page.head?) (hnormal : latest.tier ≠ .normal) :
    countUnchangedRecommendationTicks page =
      (page.takeWhile fun a => a.tier = latest.tier).length := by
  cases page with
  | nil => cases hlatest
  | cons b rows =>
    cases hlatest
    have hsame : ∀ a : RiskAssessment R Uuid, topRecommendationId a = topRecommendationId latest ↔
        a.tier = latest.tier := by
      intro a
      refine ⟨tier_eq_of_topRecommendationId, fun htier => ?_⟩
      cases hbaseline : tierBaseline latest.tier with
      | none => cases htier' : latest.tier <;> simp_all [tierBaseline]
      | some r =>
        rw [topRecommendationId_baseline hbaseline, topRecommendationId_baseline (htier ▸ hbaseline)]
    simp only [countUnchangedRecommendationTicks, hsame]

end

/-! ## A page of the history of a run -/

section
variable {R Uuid : Type} [Field R] [LinearOrder R] [DecidableEq Uuid] [IsStrictOrderedRing R]
  {M : Math R} {T : Text R Uuid} {zoneId : Uuid} {db db' : Db R Uuid}
  {cache : Scheduler.AgentCache R} {tierState : TierState R} {ticks : List (StoryTick R Uuid)}

theorem recorded_story (h : Story M T zoneId db cache tierState ticks db') :
    Recorded tieringConfig tierState (ticks.map StoryTick.row) := by
  induction h with
  | nil => exact .nil _
  | cons t _ hrun _ ih =>
    obtain ⟨f, ht⟩ := (told_tick hrun).1
    rw [ht.tierState] at ih
    exact .cons f (by rw [ht.tier, StoryTick.tierAfter, ht.tierState]) ht.score ih

/-- A page is a stretch of the run, if its rows are rows of the run. -/
theorem page_reverse_stretch (h : Story M T zoneId db cache tierState ticks db')
    (hinc : (ticks.map fun t => t.simTime.instant).Pairwise (· < ·)) (limit : Nat)
    {before after : Option Instant}
    (hrows : ∀ a ∈ RiskAssessmentRepository.matching db' zoneId before after,
      a ∈ ticks.map StoryTick.row) :
    (RiskAssessmentRepository.historyByZone db' zoneId limit before after).reverse <:+:
      ticks.map StoryTick.row := by
  have htold := h.told
  have hhistory : (ticks.map StoryTick.row).Pairwise fun a b => a.timestamp < b.timestamp := by
    rw [List.pairwise_map] at hinc ⊢
    refine hinc.imp_of_mem fun {t t'} ht ht' hlt => ?_
    obtain ⟨f, hf⟩ := htold t ht
    obtain ⟨f', hf'⟩ := htold t' ht'
    rwa [hf.timestamp, hf'.timestamp]
  let p (a : RiskAssessment R Uuid) : Bool :=
    (∀ t ∈ before, a.timestamp < t) ∧ ∀ t ∈ after, t < a.timestamp
  refine (RiskAssessmentRepository.historyByZone_pages zoneId limit after before).reverse_stretch
    (p := p) hhistory ?_ ?_
  · intro a b c ha hc hab hbc
    simp only [p, decide_eq_true_eq] at ha hc ⊢
    exact ⟨fun t ht => hbc.trans (hc.1 t ht), fun t ht => (ha.2 t ht).trans hab⟩
  · -- the query selects the rows of the run within the bounds
    have hmatching : (RiskAssessmentRepository.matching db' zoneId before after).Nodup :=
      (List.Nodup.of_map _ db'.riskAssessments.nodup).filter _
    have hfilter : ((ticks.map StoryTick.row).filter p).Nodup :=
      (hhistory.imp fun hlt heq => absurd (congrArg RiskAssessment.timestamp heq) hlt.ne).filter _
    refine (List.perm_ext_iff_of_nodup hmatching hfilter).2 fun a => ?_
    rw [List.mem_filter]
    constructor
    · intro ha
      refine ⟨hrows a ha, ?_⟩
      simpa [p] using (of_decide_eq_true (List.mem_filter.1 ha).2).2
    · rintro ⟨ha, hp⟩
      obtain ⟨t, ht, rfl⟩ := List.mem_map.1 ha
      obtain ⟨f, hf⟩ := htold t ht
      exact List.mem_filter.2 ⟨h.persisted hinc t ht,
        decide_eq_true ⟨hf.zoneId, of_decide_eq_true hp⟩⟩

/-- **What the client says of a run's stability**: on any page of a zone's history whose rows are those of
a run of ticks, it reports at most one turn of the tier for every `dwellTicks` rows, an oscillation only if
the score fell by the de-escalation margin between two rows, and an unchanged recommendation only for rows
of the latest tier; above `normal` these are all the rows since that tier was entered. -/
theorem stability_told (M : Math R) (T : Text R Uuid) (zoneId : Uuid) {db db' : Db R Uuid}
    {cache : Scheduler.AgentCache R} (past : List (FusionResult R Uuid))
    (ticks : List (StoryTick R Uuid))
    (h : Story M T zoneId db cache (run tieringConfig TierState.initial past) ticks db')
    (hinc : (ticks.map fun t => t.simTime.instant).Pairwise (· < ·)) (limit : Nat)
    (before after : Option Instant)
    (hrows : ∀ a ∈ RiskAssessmentRepository.matching db' zoneId before after,
      a ∈ ticks.map StoryTick.row)
    (toFixed0 : R → String) (confidenceFactors : List (ConfidenceFactor R)) :
    let config : TieringConfig R := tieringConfig
    let page := RiskAssessmentRepository.historyByZone db' zoneId limit before after
    let stability := buildRecommendationStability toFixed0 page confidenceFactors
    (stability.oscillationReversals ≠ 0 →
      config.dwellTicks * stability.oscillationReversals + 2 ≤ page.length) ∧
    (stability.oscillationDetected → ∃ older newer, [newer, older].Sublist page ∧
      newer.compoundRiskScore ≤ older.compoundRiskScore - config.deEscalationMargin) ∧
    ∀ latest ∈ page.head?,
      (∀ a ∈ page.take stability.unchangedForTicks, a.tier = latest.tier) ∧
      (latest.tier ≠ .normal → stability.unchangedForTicks =
        (page.takeWhile fun a => a.tier = latest.tier).length) := by
  obtain ⟨earlier, later, hsplit⟩ := page_reverse_stretch h hinc limit hrows
  have hrecorded := recorded_story h
  rw [← hsplit] at hrecorded
  obtain ⟨past', hpage⟩ := hrecorded.prefix.suffix
  have hstate : run tieringConfig (run tieringConfig TierState.initial past) past' =
      run tieringConfig TierState.initial (past ++ past') := List.foldl_append.symm
  rw [hstate] at hpage
  refine ⟨fun hturn => hpage.reversals_le (Nat.le_succ 1) hturn, fun hdetected => ?_,
    fun latest hlatest => ⟨fun a ha => tier_of_unchanged ha hlatest,
      fun hnormal => countUnchanged_eq hlatest hnormal⟩⟩
  obtain ⟨older, newer, hsub, hfell⟩ := hpage.swing (run_coherent initial_coherent _) hdetected
  exact ⟨older, newer, by simpa using hsub.reverse, hfell⟩

end

/-- Gas that comes, goes and comes again turns the tier twice; the recommendation has just changed. -/
theorem stability_told_gasPlant :
    let config : TieringConfig ℚ := tieringConfig
    let page := RiskAssessmentRepository.historyByZone gasPlantRun.2 1 50 none none
    let stability := buildRecommendationStability (fun _ => "") page []
    (stability.oscillationReversals = 2 ∧ config.dwellTicks * 2 + 2 ≤ page.length) ∧
    (stability.oscillationDetected ∧ ∃ older newer, [newer, older].Sublist page ∧
      newer.compoundRiskScore ≤ older.compoundRiskScore - config.deEscalationMargin) ∧
    ∃ latest ∈ page.head?, latest.tier = .critical ∧ stability.unchangedForTicks = 1 ∧
      (∀ a ∈ page.take 1, a.tier = .critical) ∧
      (page.takeWhile fun a => a.tier = .critical).length = 1 := by
  obtain ⟨ticks, hstory, hrows, htimes, -⟩ := gasPlant_story
  have hvalues : (let page := RiskAssessmentRepository.historyByZone gasPlantRun.2 1 50 none none
      let stability := buildRecommendationStability (fun _ => "") page []
      (stability.oscillationReversals, stability.oscillationDetected, stability.unchangedForTicks,
        page.head?.map RiskAssessment.tier)) = (2, true, 1, some .critical) := by decide +kernel
  simp only [Prod.mk.injEq] at hvalues
  obtain ⟨hreversals, hdetected, hunchanged, hhead⟩ := hvalues
  obtain ⟨latest, hlatest, htier⟩ := Option.map_eq_some_iff.1 hhead
  obtain ⟨hdwell, hswing, hlasting⟩ := stability_told Math.dyadic plainText 1 [] ticks hstory
    (by rw [htimes]; decide) 50 none none (fun a ha => hrows a (List.mem_of_mem_filter ha))
    (fun _ => "") []
  obtain ⟨hsame, hcount⟩ := hlasting latest hlatest
  rw [hunchanged, htier] at hsame hcount
  rw [hreversals] at hdwell
  exact ⟨⟨hreversals, hdwell (by decide)⟩, ⟨hdetected, hswing hdetected⟩, latest, hlatest, htier,
    hunchanged, hsame, (hcount (by decide)).symm⟩

end Frontend
