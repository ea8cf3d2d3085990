import IndustrialSafety.Foresight.Trajectory
import IndustrialSafety.Historical.Proof.Coherence
import IndustrialSafety.Lib.Yields

/-!
# Where the ticks of an index come from

A tick of a deck's index is the tick of a row of the database that the index was built from, of a zone and
the window of its own incident, which is one of the deck's (`StoredTick`). The cache may hold ticks of earlier databases:
`Known sources` is kept by whatever reads an index while the database is one of the `sources`, and what it
reads comes `From` there (`buildIndexForDeck_yields`).
-/

namespace Historical

open Py

variable {R Uuid : Type} [Field R] [LinearOrder R] [FloorRing R] [DecidableEq Uuid]
  {env : Env R Uuid} {db : Db R Uuid}

/-- The tick of a row of the database, as an incident of the deck has it. -/
structure StoredTick (env : Env R Uuid) (db : Db R Uuid) (deck : HistoricalDeck)
    (tick : IndexedTick R Uuid) : Prop where
  assessment : tick.assessment ∈ db.riskAssessments
  zoneId : tick.assessment.zoneId = tick.zoneId
  incident : tick.incident ∈ deck.incidents
  covers : tick.incident.Covers env tick.assessment
  featureVector : ∃ previous, tick.featureVector = buildFeatureVector tick.assessment previous

omit [FloorRing R] [DecidableEq Uuid] in
theorem mem_indexTimeline {incident : HistoricalIncident} {zoneId : Uuid}
    {previous : Option (RiskAssessment R Uuid)} {assessments : List (RiskAssessment R Uuid)}
    {tick : IndexedTick R Uuid} (h : tick ∈ indexTimeline incident zoneId previous assessments) :
    tick.incident = incident ∧ tick.zoneId = zoneId ∧ tick.assessment ∈ assessments ∧
      ∃ previous, tick.featureVector = buildFeatureVector tick.assessment previous := by
  induction assessments generalizing previous with
  | nil => cases h
  | cons assessment assessments ih =>
    rcases List.mem_cons.1 h with rfl | h
    · exact ⟨rfl, rfl, by simp, previous, rfl⟩
    · obtain ⟨hincident, hzone, hmem, hvector⟩ := ih h
      exact ⟨hincident, hzone, by simp [hmem], hvector⟩

omit [Field R] [LinearOrder R] [FloorRing R] in
theorem mem_fetchZoneAssessments {zoneId : Uuid} {startTime endTime : Instant}
    {a : RiskAssessment R Uuid} (h : a ∈ Replay.fetchZoneAssessments db zoneId startTime endTime) :
    a ∈ db.riskAssessments ∧ a.zoneId = zoneId ∧ startTime ≤ a.timestamp ∧ a.timestamp ≤ endTime := by
  rw [Replay.fetchZoneAssessments, List.mem_insertionSort, Replay.historyByZone_window] at h
  have hmem := (Query.mem_orderByDesc _).1 (List.mem_of_mem_take h)
  rw [Replay.assessmentsIn, List.mem_filter, decide_eq_true_eq] at hmem
  exact hmem

theorem freshIndex_stored {deck : HistoricalDeck} {ticks : List (IndexedTick R Uuid)}
    (hfresh : freshIndex env db deck = .ok ticks) {tick : IndexedTick R Uuid} (htick : tick ∈ ticks) :
    StoredTick env db deck tick := by
  obtain ⟨indexed, hindexed, heq⟩ := Except.bind_eq_ok.1 hfresh
  cases heq
  obtain ⟨ofIncident, hof, htick⟩ := List.mem_flatten.1 htick
  obtain ⟨incident, hincident, hof⟩ :=
    (Except.mapM_eq_ok.1 hindexed).exists_of_mem_right hof
  obtain ⟨summary?, hsummary, hof⟩ := Except.bind_eq_ok.1 hof
  cases summary? with
  | none =>
    cases hof
    cases htick
  | some summary =>
    cases hof
    obtain ⟨timeline, htimeline, htick⟩ := List.mem_flatMap.1 htick
    obtain ⟨zoneId, hzone, rfl⟩ := List.mem_map.1 htimeline
    obtain ⟨rfl, hzoneId, hmem, hvector⟩ := mem_indexTimeline htick
    obtain ⟨hstored, hsame, hstart, hend⟩ := mem_fetchZoneAssessments hmem
    refine ⟨hstored, hsame.trans hzoneId.symm, hincident, ?_, hvector⟩
    exact ⟨summary, hsummary, hsame ▸ hzone, hstart, hend⟩

/-- The deck had the tick when the database was one of the sources. -/
def From (env : Env R Uuid) (sources : Db R Uuid → Prop) (deck : HistoricalDeck)
    (tick : IndexedTick R Uuid) : Prop :=
  ∃ db, sources db ∧ StoredTick env db deck tick

def Known (env : Env R Uuid) (sources : Db R Uuid → Prop) (cache : IndexCache R Uuid) : Prop :=
  ∀ entry ∈ cache, ∀ deck ∈ historicalDecks, deck.key = entry.1 →
    ∀ tick ∈ entry.2, From env sources deck tick

variable {sources : Db R Uuid → Prop}

omit [DecidableEq Uuid] in
theorem Known.mono {sources' : Db R Uuid → Prop} {cache : IndexCache R Uuid}
    (h : Known env sources cache) (hsub : ∀ db, sources db → sources' db) :
    Known env sources' cache := by
  intro entry hentry deck hdeck hkey tick htick
  obtain ⟨db, hdb, hstored⟩ := h entry hentry deck hdeck hkey tick htick
  exact ⟨db, hsub db hdb, hstored⟩

theorem buildIndexForDeck_yields (hdb : sources db) {deck : HistoricalDeck}
    (hdeck : deck ∈ historicalDecks) : Service.Yields (Known env sources)
      (fun ticks => ∀ tick ∈ ticks, From env sources deck tick) (buildIndexForDeck env db deck) := by
  have hyields : Service.Yields (Known env sources) _ (buildIndexForDeck env db deck) :=
    Memo.cached_yields (P := fun key ticks => ∀ deck ∈ historicalDecks, deck.key = key →
      ∀ tick ∈ ticks, From env sources deck tick) fun ticks hfresh deck' hdeck' hkey tick htick => by
        rw [registry_historicalDecks.key deck' hdeck' deck hdeck hkey]
        exact ⟨db, hdb, freshIndex_stored hfresh htick⟩
  exact hyields.mono fun ticks h => h deck hdeck rfl

/-! ## Lookups -/

/-- How a lookup gets its indexes. -/
def Sourced (env : Env R Uuid) (sources : Db R Uuid → Prop) (index : Index R Uuid) : Prop :=
  ∀ deck ∈ historicalDecks, Service.Yields (Known env sources)
    (fun ticks => ∀ tick ∈ ticks, From env sources deck tick) (index deck)

variable {index : Index R Uuid} (hindex : Sourced env sources index)

include hindex

theorem outcomeTier_yields (incident : HistoricalIncident) (zoneId : Uuid) :
    Service.Yields (Known env sources) (fun _ => True) (outcomeTier index incident zoneId) := by
  unfold outcomeTier
  cases hdeck : historicalDecks.find? (incident ∈ ·.incidents) with
  | none => exact .pure trivial
  | some deck =>
    exact (hindex deck (List.mem_of_find?_eq_some hdeck)).bind fun _ _ => .pure trivial

theorem scoreDeck_yields {sqrt : R → R} {currentVector : FeatureVector R} {currentId : Uuid}
    {deck : HistoricalDeck} (hdeck : deck ∈ historicalDecks) :
    Service.Yields (Known env sources) (fun scored => ∀ p ∈ scored, From env sources deck p.1 ∧
      p.1.assessment.assessmentId ≠ currentId ∧
        similarityScore sqrt currentVector p.1.featureVector = .ok p.2)
      (scoreDeck index sqrt currentVector currentId deck) := by
  refine (hindex deck hdeck).bind fun ticks hticks => .mapM fun tick htick => ?_
  obtain ⟨htick, hother⟩ := List.mem_filter.1 htick
  exact .lift_bind fun similarity hsimilarity =>
    .pure ⟨hticks tick htick, of_decide_eq_true hother, hsimilarity⟩

/-- The match of a tick of which `similarity` is known. -/
structure MatchOf (env : Env R Uuid) (currentVector : FeatureVector R)
    (p : IndexedTick R Uuid × R) (m : IncidentMatch R Uuid) : Prop where
  scenarioKey : m.scenarioKey = p.1.incident.scenarioKey
  zoneId : m.zoneId = p.1.zoneId
  similarity : m.similarity = p.2
  rootCause : m.rootCause = p.1.incident.rootCause
  lessonsLearned : m.lessonsLearned = lessonsForRules p.1.assessment.justification.rulesFired
  features : (m.matchingFeatures, m.differingFeatures) =
    matchingAndDifferingFeatures currentVector p.1.featureVector 10

theorem incidentMatch_yields (currentVector : FeatureVector R) (p : IndexedTick R Uuid × R) :
    Service.Yields (Known env sources) (MatchOf env currentVector p)
      (incidentMatch index env currentVector p.1 p.2) := by
  refine .lift_bind fun summary _ => ?_
  exact (outcomeTier_yields hindex _ _).bind fun tier _ => .pure ⟨rfl, rfl, rfl, rfl, rfl, rfl⟩

/-- The answer to a search: the matches of the most similar of some ticks, none of them of the current
assessment. -/
structure Ranked (env : Env R Uuid) (sources : Db R Uuid → Prop) (decks : List HistoricalDeck)
    (current : RiskAssessment R Uuid) (previous : Option (RiskAssessment R Uuid)) (topN : Int)
    (incidents : List (IncidentMatch R Uuid)) : Prop where
  ranking : ∃ ranked : List (IndexedTick R Uuid × R),
    (∀ p ∈ ranked, (∃ deck ∈ decks, From env sources deck p.1) ∧
      p.1.assessment.assessmentId ≠ current.assessmentId ∧
      similarityScore env.sqrt (buildFeatureVector current previous) p.1.featureVector = .ok p.2) ∧
    ranked.Pairwise (fun p q => q.2 ≤ p.2) ∧
    List.Forall₂ (MatchOf env (buildFeatureVector current previous)) (sliceTo topN ranked) incidents

theorem findSimilarIncidents_yields (current : RiskAssessment R Uuid)
    (previous : Option (RiskAssessment R Uuid)) (topN : Int) (deckKey : Option String) :
    Service.Yields (Known env sources)
      (Ranked env sources (searchedDecks deckKey) current previous topN)
      (findSimilarIncidents index env current previous topN deckKey) := by
  have hscored : Service.Yields (Known env sources) _ ((searchedDecks deckKey).mapM
      (scoreDeck index env.sqrt (buildFeatureVector current previous) current.assessmentId)) :=
    .mapM_forall₂ fun deck hdeck => scoreDeck_yields hindex (searchedDecks_registered hdeck)
  refine hscored.bind fun scored hscored => ?_
  refine (Service.Yields.mapM_forall₂ fun p _ => incidentMatch_yields hindex _ p).mono
    fun incidents hincidents => ⟨_, fun p hp => ?_, List.pairwise_insertionSort _ _, hincidents⟩
  obtain ⟨ofDeck, hof, hp⟩ := List.mem_flatten.1 ((List.mem_insertionSort _).1 hp)
  obtain ⟨deck, hdeck, hscores⟩ := hscored.exists_of_mem_right hof
  exact ⟨⟨deck, hdeck, (hscores p hp).1⟩, (hscores p hp).2⟩

theorem computeAnalytics_yields (deckKey : Option String) :
    Service.Yields (Known env sources) (fun _ => True) (computeAnalytics index deckKey) := by
  refine .bind (.mapM (P := fun _ => True) fun deck hdeck => ?_) fun _ _ => .pure trivial
  exact (hindex deck (List.mem_of_mem_filter hdeck)).mono fun _ _ => trivial

end Historical
