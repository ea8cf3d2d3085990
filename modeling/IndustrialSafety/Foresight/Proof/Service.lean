import IndustrialSafety.Foresight.Proof.Confidence
import IndustrialSafety.Foresight.Proof.Progression
import IndustrialSafety.Foresight.Service
import IndustrialSafety.Historical.Proof.Provenance

/-!
# The evidence of a forecast

Whatever trajectories the decks give, in whatever order their steps are (`Sighted`): a forecast cites steps
of the matches, each match at most once for each horizon, and projects no risk and no tier that is not
among what it cites (`Founded`). With that every confidence is a weakest link
(`confidenceOf_weakestLink`).
-/

namespace Foresight

open Py Historical

section
variable {R Uuid : Type} [Field R]

/-- A match as the matching gives it. -/
structure Sighted [LinearOrder R] (m : TrajectoryMatch R Uuid) : Prop where
  anchor_lt : m.anchorIndex < m.trajectory.steps.length
  similarity_pos : 0 < m.similarity
  similarity_le_one : m.similarity ≤ 1

/-- The item shows a step of the match. -/
def Shows (m : TrajectoryMatch R Uuid) (item : ForecastEvidence R Uuid) : Prop :=
  item.scenarioKey = m.trajectory.scenarioKey ∧ item.zoneId = m.trajectory.zoneId ∧
    item.similarity = m.similarity ∧ ∃ step ∈ m.trajectory.steps, item.observedRisk = step.risk ∧
      item.observedTier = step.tier ∧ item.observedTimestamp = step.timestamp

/-- A point that projects nothing but what it cites. -/
structure Founded [LinearOrder R] (matched : List (TrajectoryMatch R Uuid))
    (point : ForecastPoint R Uuid) : Prop where
  evidence : ∀ item ∈ point.evidence, ∃ m ∈ matched, Shows m item
  length_le : point.evidence.length ≤ matched.length
  risk_ge : ∀ risk ∈ point.projectedRisk, ∃ item ∈ point.evidence, item.observedRisk ≤ risk
  risk_le : ∀ risk ∈ point.projectedRisk, ∃ item ∈ point.evidence, risk ≤ item.observedRisk
  tier_observed : ∀ tier ∈ point.projectedTier, ∃ item ∈ point.evidence, item.observedTier = tier

omit [Field R] in
theorem anchorStep_ok {m : TrajectoryMatch R Uuid} (h : m.anchorIndex < m.trajectory.steps.length) :
    anchorStep m = .ok (m.trajectory.steps.get ⟨m.anchorIndex, h⟩) := by
  unfold anchorStep
  rw [List.getElem?_eq_getElem h]
  rfl

theorem citation_shows {m : TrajectoryMatch R Uuid} (h : m.anchorIndex < m.trajectory.steps.length)
    (horizon : Int) : ∃ found, citation horizon m = .ok found ∧ ∀ item ∈ found, Shows m item := by
  unfold citation
  rw [anchorStep_ok h, Except.ok_bind]
  dsimp only
  split
  · exact ⟨none, rfl, fun _ h => by cases h⟩
  · rename_i step hstep
    refine ⟨_, rfl, fun item hitem => ?_⟩
    cases hitem
    exact ⟨rfl, rfl, rfl, step, List.mem_of_mem_drop (nearestStepAtOrAfter_eq_some hstep).1, rfl, rfl,
      rfl⟩

variable [LinearOrder R] [IsStrictOrderedRing R]

theorem forecastPoint_founded {matched : List (TrajectoryMatch R Uuid)}
    (hmatched : ∀ m ∈ matched, Sighted m) (horizon : Int) :
    ∃ point, forecastPoint matched horizon = .ok point ∧ Founded matched point := by
  obtain ⟨found, hfound⟩ := Except.mapM_total fun m (hm : m ∈ matched) =>
    (citation_shows (hmatched m hm).anchor_lt horizon).imp fun _ => And.left
  have hshows : ∀ item ∈ found.filterMap id, ∃ m ∈ matched, Shows m item := by
    intro item hitem
    obtain ⟨citation?, hcitation, hsome⟩ := List.mem_filterMap.1 hitem
    obtain ⟨m, hm, hok⟩ := (Except.mapM_eq_ok.1 hfound).exists_of_mem_right hcitation
    obtain ⟨found', hok', hshows⟩ := citation_shows (hmatched m hm).anchor_lt horizon
    cases hok.symm.trans hok'
    exact ⟨m, hm, hshows item hsome⟩
  have hlength : (found.filterMap id).length ≤ matched.length := by
    rw [(Except.mapM_eq_ok.1 hfound).length_eq]
    exact List.length_filterMap_le _ _
  obtain ⟨point, hpoint, -, hevidence, h⟩ := forecastPoint_projects hfound fun item hitem => by
    obtain ⟨m, hm, -, -, hsimilarity, -⟩ := hshows item hitem
    rw [hsimilarity]
    exact (hmatched m hm).similarity_pos
  rw [← hevidence] at hshows hlength
  exact ⟨point, hpoint, hshows, hlength, h.risk_ge, h.risk_le, h.tier_observed⟩

theorem generateForecast_founded {matched : List (TrajectoryMatch R Uuid)}
    (hmatched : ∀ m ∈ matched, Sighted m) (horizons : List Int) :
    ∃ points, generateForecast matched horizons = .ok points ∧ ∀ p ∈ points, Founded matched p := by
  obtain ⟨points, hpoints⟩ := Except.mapM_total fun h (_ : h ∈ horizons) =>
    (forecastPoint_founded hmatched h).imp fun _ => And.left
  refine ⟨points, hpoints, fun p hp => ?_⟩
  obtain ⟨h, -, hpoint⟩ := (Except.mapM_eq_ok.1 hpoints).exists_of_mem_right hp
  obtain ⟨p', hpoint', hfounded⟩ := forecastPoint_founded hmatched h
  cases hpoint.symm.trans hpoint'
  exact hfounded

/-! ## The confidence -/

variable {sqrt : R → R} {matched : List (TrajectoryMatch R Uuid)}
  {points : List (ForecastPoint R Uuid)}

theorem agreement_mem_unit (hsqrt : ∀ x, 0 ≤ x → 0 ≤ sqrt x) (point : ForecastPoint R Uuid) :
    agreement sqrt point ∈ Set.Icc 0 1 := by
  have := hsqrt _ (Mean.variance_nonneg (observedRisks point))
  refine ⟨le_max_left _ _, max_le zero_le_one (sub_le_self _ ?_)⟩
  positivity

omit [Field R] [IsStrictOrderedRing R] in
theorem sum_evidence_le (hpoints : ∀ p ∈ points, Founded matched p) :
    (points.map (·.evidence.length)).sum ≤ matched.length * points.length := by
  have hlength : ∀ n ∈ points.map (·.evidence.length), n ≤ matched.length := by
    intro n hn
    obtain ⟨point, hpoint, rfl⟩ := List.mem_map.1 hn
    exact (hpoints point hpoint).length_le
  have hsum := List.sum_le_card_nsmul _ _ hlength
  rwa [List.length_map, smul_eq_mul, mul_comm] at hsum

theorem confidenceOf_weakestLink (hsqrt : ∀ x, 0 ≤ x → 0 ≤ sqrt x) (currentWindowLength : ℕ)
    (windowSize : Int) (hmatched : ∀ m ∈ matched, Sighted m)
    (hpoints : ∀ p ∈ points, Founded matched p) :
    WeakestLink (confidenceOf sqrt currentWindowLength windowSize matched points) := by
  refine ⟨?_, ?_, ?_, ?_, isLeast_min _ _ _ _⟩
  · refine mean_mem_unit fun x hx => ?_
    obtain ⟨point, -, rfl⟩ := List.mem_map.1 hx
    exact agreement_mem_unit hsqrt point
  · show completeness _ _ ∈ Set.Icc (0 : R) 1
    unfold completeness
    split
    · rename_i hsize
      have hsize : (0 : R) < windowSize := Int.cast_pos.2 hsize
      exact ⟨le_min zero_le_one (by positivity), min_le_left _ _⟩
    · exact ⟨le_rfl, zero_le_one⟩
  · refine mean_mem_unit fun x hx => ?_
    obtain ⟨m, hm, rfl⟩ := List.mem_map.1 hx
    exact ⟨(hmatched m hm).similarity_pos.le, (hmatched m hm).similarity_le_one⟩
  · exact ⟨div_nonneg (Nat.cast_nonneg _) (Nat.cast_nonneg _),
      div_le_one_of_le₀ (Nat.cast_le.2 (sum_evidence_le hpoints)) (Nat.cast_nonneg _)⟩

end

/-! ## The matches -/

section
variable {R Uuid : Type} [Field R] [LinearOrder R] [IsStrictOrderedRing R] [DecidableEq Uuid]
  {distance : FeatureVector R → FeatureVector R → R}

/-- What was matched is a candidate, and not the current trajectory. -/
theorem matchTrajectories_sighted (hdistance : ∀ a b, 0 ≤ distance a b) {current : Trajectory R Uuid}
    {candidates : List (Trajectory R Uuid)} {windowSize topN : Int}
    {matched : List (TrajectoryMatch R Uuid)}
    (h : matchTrajectories distance current candidates windowSize topN = .ok matched) :
    ∀ m ∈ matched, Sighted m ∧ m.trajectory ∈ candidates.filter (Eligible current) := by
  intro m hm
  by_cases hwindow : current.window windowSize = []
  · cases h.symm.trans (matchTrajectories_nil hwindow candidates topN)
    cases hm
  · obtain ⟨found, sorted, hok, hfound, hsorted⟩ :=
      matchTrajectories_ok hdistance current candidates windowSize topN hwindow
    cases h.symm.trans hok
    obtain ⟨t, ht, hmatch⟩ :=
      hfound.exists_of_mem_right (hsorted.perm.mem_iff.1 (mem_of_mem_sliceTo hm))
    rw [hmatch.cites]
    refine ⟨⟨?_, hmatch.similarity_pos, hmatch.similarity_le_one⟩, ht⟩
    rw [hmatch.cites]
    exact hmatch.anchor_lt

end

/-! ## The trajectories -/

section
variable {R Uuid : Type} [Field R] [LinearOrder R] [FloorRing R] [DecidableEq Uuid]
  {env : Env R Uuid} {sources : Db R Uuid → Prop} {index : Index R Uuid}

/-- A trajectory of one of the decks: every step is the tick of a row that one of the sources had. -/
structure Traced (env : Env R Uuid) (sources : Db R Uuid → Prop) (decks : List HistoricalDeck)
    (t : Trajectory R Uuid) : Prop where
  steps : ∀ step ∈ t.steps, ∃ deck ∈ decks, ∃ tick, From env sources deck tick ∧
    step = stepFromTick tick ∧ tick.zoneId = t.zoneId ∧ tick.incident.scenarioKey = t.scenarioKey
  incident : ∃ incident ∈ t.incident, incident.scenarioKey = t.scenarioKey ∧
    ∃ deck ∈ decks, incident ∈ deck.incidents

omit [DecidableEq Uuid] in
theorem Traced.mono {decks decks' : List HistoricalDeck} {t : Trajectory R Uuid}
    (h : Traced env sources decks t) (hsub : ∀ deck ∈ decks, deck ∈ decks') :
    Traced env sources decks' t := by
  refine ⟨fun step hstep => ?_, ?_⟩
  · obtain ⟨deck, hdeck, htick⟩ := h.steps step hstep
    exact ⟨deck, hsub deck hdeck, htick⟩
  · obtain ⟨incident, hincident, hkey, deck, hdeck, hmem⟩ := h.incident
    exact ⟨incident, hincident, hkey, deck, hsub deck hdeck, hmem⟩

theorem buildTrajectoriesForDeck_yields (hindex : Sourced env sources index) {deck : HistoricalDeck}
    (hdeck : deck ∈ historicalDecks) : Service.Yields (Known env sources)
      (fun ts => ∀ t ∈ ts, Traced env sources [deck] t) (buildTrajectoriesForDeck index deck) := by
  refine (hindex deck hdeck).bind fun ticks hticks => .pure fun t ht => ?_
  obtain ⟨⟨⟨scenarioKey, zoneId⟩, group⟩, hgroup, rfl⟩ := List.mem_map.1 ht
  obtain ⟨hne, hvalues⟩ := Group.mem_group.1 hgroup
  have hmem : ∀ tick ∈ group, From env sources deck tick ∧ tick.incident.scenarioKey = scenarioKey ∧
      tick.zoneId = zoneId := by
    intro tick htick
    rw [hvalues] at htick
    obtain ⟨p, hp, rfl⟩ := List.mem_map.1 htick
    obtain ⟨hp, hkey⟩ := List.mem_filter.1 hp
    obtain ⟨tick', htick', rfl⟩ := List.mem_map.1 hp
    exact ⟨hticks tick' htick', Prod.mk.inj (of_decide_eq_true hkey)⟩
  refine ⟨fun step hstep => ?_, ?_⟩
  · obtain ⟨tick, htick, rfl⟩ := List.mem_map.1 hstep
    obtain ⟨hfrom, hkey, hzone⟩ := hmem tick ((List.mem_insertionSort _).1 htick)
    exact ⟨deck, by simp, tick, hfrom, rfl, hzone, hkey⟩
  · -- the group has a tick, so the sorted one has a first
    obtain ⟨tick, hhead⟩ : ∃ tick, (group.insertionSort fun a b =>
        a.assessment.timestamp ≤ b.assessment.timestamp).head? = some tick := by
      rw [← Option.isSome_iff_exists, List.isSome_head?, ← List.length_pos_iff,
        List.length_insertionSort]
      exact List.length_pos_iff.2 hne
    obtain ⟨⟨db, -, hstored⟩, hkey, -⟩ :=
      hmem tick ((List.mem_insertionSort _).1 (List.mem_of_mem_head? hhead))
    refine ⟨tick.incident, ?_, hkey, deck, by simp, hstored.incident⟩
    show tick.incident ∈ Option.map IndexedTick.incident _
    rw [hhead]
    rfl

theorem buildCandidateTrajectories_yields (hindex : Sourced env sources index)
    (deckKey : Option String) : Service.Yields (Known env sources)
      (fun ts => ∀ t ∈ ts, Traced env sources (searchedDecks deckKey) t)
      (buildCandidateTrajectories index deckKey) := by
  have hdecks : ∀ deck ∈ searchedDecks deckKey, Service.Yields (Known env sources)
      (fun ts => ∀ t ∈ ts, Traced env sources (searchedDecks deckKey) t)
      (buildTrajectoriesForDeck index deck) := by
    intro deck hdeck
    refine (buildTrajectoriesForDeck_yields hindex (searchedDecks_registered hdeck)).mono
      fun ts h t ht => (h t ht).mono fun d hd => ?_
    rwa [List.mem_singleton.1 hd]
  refine .bind (.mapM hdecks) fun ts hts => .pure fun t ht => ?_
  obtain ⟨ofDeck, hof, ht⟩ := List.mem_flatten.1 ht
  exact hts ofDeck hof t ht

/-! ## The contributions -/

/-- Of the registered decks, one has the incident of a scenario. -/
theorem deck_of_scenarioKey : ∀ deck ∈ historicalDecks, ∀ deck' ∈ historicalDecks,
    ∀ incident ∈ deck.incidents, ∀ incident' ∈ deck'.incidents,
      incident.scenarioKey = incident'.scenarioKey → deck = deck' := by
  decide +kernel

/-- Each contribution is of another deck, and each scenario is counted once. -/
structure Accounted (matched : List (TrajectoryMatch R Uuid))
    (contributions : List DeckContribution) : Prop where
  nodup : (contributions.map DeckContribution.deckKey).Nodup
  pos : ∀ c ∈ contributions, 0 < c.matchedIncidentCount
  sum : (contributions.map DeckContribution.matchedIncidentCount).sum =
    (matched.map (·.trajectory.scenarioKey)).toFinset.card

omit [Field R] [LinearOrder R] [FloorRing R] [DecidableEq Uuid] in
theorem contributingDeck_traced {decks : List HistoricalDeck} {m : TrajectoryMatch R Uuid}
    (h : ∃ incident ∈ m.trajectory.incident, incident.scenarioKey = m.trajectory.scenarioKey ∧
      ∃ deck ∈ decks, incident ∈ deck.incidents) :
    ∃ deck, contributingDeck decks m = some deck ∧ deck ∈ decks ∧
      ∃ incident ∈ deck.incidents, incident.scenarioKey = m.trajectory.scenarioKey := by
  obtain ⟨incident, hincident, hkey, deck, hdeck, hmem⟩ := h
  have hfind : (decks.find? (incident ∈ ·.incidents)).isSome :=
    List.find?_isSome.2 ⟨deck, hdeck, by simpa using hmem⟩
  obtain ⟨found, hfound⟩ := Option.isSome_iff_exists.1 hfind
  refine ⟨found, ?_, List.mem_of_find?_eq_some hfound, incident, ?_, hkey⟩
  · rw [contributingDeck, Option.mem_def.1 hincident]
    exact hfound
  · simpa using List.find?_some hfound

omit [DecidableEq Uuid] in
theorem deckContributions_accounted {matched : List (TrajectoryMatch R Uuid)}
    {deckKey : Option String}
    (h : ∀ m ∈ matched, Traced env sources (searchedDecks deckKey) m.trajectory) :
    Accounted matched (deckContributions matched deckKey) := by
  let pairs := matched.filterMap fun m =>
    (contributingDeck (searchedDecks deckKey) m).map fun deck => (deck, m.trajectory.scenarioKey)
  have hpair : ∀ p ∈ pairs, p.1 ∈ historicalDecks ∧
      ∃ incident ∈ p.1.incidents, incident.scenarioKey = p.2 := by
    intro p hp
    obtain ⟨m, hm, hsome⟩ := List.mem_filterMap.1 hp
    obtain ⟨deck, hdeck, hmem, hincident⟩ := contributingDeck_traced (h m hm).incident
    rw [hdeck] at hsome
    cases hsome
    exact ⟨searchedDecks_registered hmem, hincident⟩
  have hgroups : ∀ g ∈ Group.group pairs, g.1 ∈ historicalDecks := by
    intro g hg
    have hkey := Group.mem_group_keys.1 (List.mem_map_of_mem (f := Prod.fst) hg)
    obtain ⟨p, hp, hsame⟩ := List.mem_map.1 hkey
    exact hsame ▸ (hpair p hp).1
  refine ⟨?_, fun c hc => ?_, ?_⟩
  · have hkeys : (((Group.group pairs).map Prod.fst).map HistoricalDeck.key).Nodup := by
      refine List.Nodup.map_on (fun deck hdeck deck' hdeck' hkey => ?_) (Group.group_keys_nodup pairs)
      obtain ⟨g, hg, rfl⟩ := List.mem_map.1 hdeck
      obtain ⟨g', hg', rfl⟩ := List.mem_map.1 hdeck'
      exact registry_historicalDecks.key _ (hgroups g hg) _ (hgroups g' hg') hkey
    rw [List.map_map] at hkeys
    show (((Group.group pairs).map _).map _).Nodup
    rwa [List.map_map]
  · obtain ⟨g, hg, rfl⟩ := List.mem_map.1 hc
    obtain ⟨key, hkey⟩ := List.exists_mem_of_ne_nil g.2 (Group.group_ne_nil g hg)
    exact Finset.card_pos.2 ⟨key, List.mem_toFinset.2 hkey⟩
  · have hsnd : pairs.map Prod.snd = matched.map (·.trajectory.scenarioKey) := by
      rw [List.map_filterMap, ← List.filterMap_eq_map]
      refine List.filterMap_congr fun m hm => ?_
      obtain ⟨deck, hdeck, -⟩ := contributingDeck_traced (h m hm).incident
      rw [hdeck]
      rfl
    have hinjective : Set.InjOn Prod.snd (pairs.toFinset : Set (HistoricalDeck × String)) := by
      intro p hp q hq hkey
      obtain ⟨hdeck, incident, hincident, hp⟩ := hpair p (List.mem_toFinset.1 hp)
      obtain ⟨hdeck', incident', hincident', hq⟩ := hpair q (List.mem_toFinset.1 hq)
      exact Prod.ext (deck_of_scenarioKey _ hdeck _ hdeck' _ hincident _ hincident'
        (hp.trans (hkey.trans hq.symm))) hkey
    show (((Group.group pairs).map _).map _).sum = _
    rw [List.map_map]
    show ((Group.group pairs).map fun g => g.2.toFinset.card).sum = _
    rw [Group.sum_card_group, ← Finset.card_image_of_injOn hinjective, ← hsnd]
    congr 1
    ext key
    simp

/-! ## The result -/

/-- A result that rests on what the sources had. -/
structure Grounded (env : Env R Uuid) (sources : Db R Uuid → Prop) (zoneId : Uuid)
    (scenarioKey : String) (deckKey : Option String) (now : RiskAssessment R Uuid)
    (result : ForesightResult R Uuid) : Prop where
  now : result.timestamp = now.timestamp ∧ result.currentTier = now.tier ∧
    result.currentRiskScore = now.compoundRiskScore
  sighted : ∀ m ∈ result.matched, Sighted m
  traced : ∀ m ∈ result.matched, Traced env sources (searchedDecks deckKey) m.trajectory
  other : ∀ m ∈ result.matched,
    ¬(m.trajectory.scenarioKey = scenarioKey ∧ m.trajectory.zoneId = zoneId)
  founded : ∀ point ∈ result.forecast, Founded result.matched point
  confidence : WeakestLink result.confidence
  accounted : Accounted result.matched result.deckContributions

variable [IsStrictOrderedRing R] {sqrt : R → R} {zoneId : Uuid} {scenarioKey : String}
  {recentAssessments : List (RiskAssessment R Uuid)} {windowSize topN : Int}
  {deckKey : Option String}

theorem operationalMatches_yields (hsqrt : ∀ x, 0 ≤ x → 0 ≤ sqrt x)
    (hindex : Sourced env sources index) : Service.Yields (Known env sources)
      (fun matched => ∀ m ∈ matched, Sighted m ∧
        Traced env sources (searchedDecks deckKey) m.trajectory ∧
          ¬(m.trajectory.scenarioKey = scenarioKey ∧ m.trajectory.zoneId = zoneId))
      (operationalMatches sqrt index zoneId scenarioKey recentAssessments windowSize deckKey
        topN) := by
  unfold operationalMatches
  split
  · exact fun _ hs => ⟨hs, fun _ h => by cases h⟩
  · refine (buildCandidateTrajectories_yields hindex deckKey).bind fun candidates hcandidates =>
      .lift fun matched hmatched m hm => ?_
    obtain ⟨hsighted, hmem⟩ :=
      matchTrajectories_sighted (fun a b => hsqrt _ (sum_weightedSquares_nonneg a b)) hmatched m hm
    obtain ⟨hmem, heligible⟩ := List.mem_filter.1 hmem
    exact ⟨hsighted, hcandidates _ hmem, (of_decide_eq_true heligible).2⟩

theorem generateOperationalForesight_yields (hsqrt : ∀ x, 0 ≤ x → 0 ≤ sqrt x)
    (hindex : Sourced env sources index) (now : RiskAssessment R Uuid)
    (hnow : recentAssessments.getLast? = some now) : Service.Yields (Known env sources)
      (Grounded env sources zoneId scenarioKey deckKey now)
      (generateOperationalForesight sqrt index zoneId scenarioKey recentAssessments windowSize deckKey
        topN) := by
  refine (operationalMatches_yields hsqrt hindex).bind fun matched hmatched => ?_
  have hsighted := fun m hm => (hmatched m hm).1
  obtain ⟨points, hpoints, hfounded⟩ := generateForecast_founded hsighted horizonsMinutes
  refine .lift_bind fun points' hpoints' => ?_
  cases hpoints.symm.trans hpoints'
  dsimp only
  refine .lift_bind fun confidence hconfidence => ?_
  rw [computeConfidence_eq] at hconfidence
  cases hconfidence
  rw [hnow]
  refine .lift_bind fun progression _ => .pure ?_
  exact ⟨⟨rfl, rfl, rfl⟩, hsighted, fun m hm => (hmatched m hm).2.1, fun m hm => (hmatched m hm).2.2,
    hfounded, confidenceOf_weakestLink hsqrt _ _ hsighted hfounded,
    deckContributions_accounted fun m hm => (hmatched m hm).2.1⟩

end

end Foresight
