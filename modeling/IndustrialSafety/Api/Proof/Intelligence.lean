import IndustrialSafety.Api.Intelligence
import IndustrialSafety.Foresight.Proof.Service
import IndustrialSafety.Services.Proof.JustificationCodec

/-!
# What the lookups cite

Over every run of a process: a forecast cites assessments that were stored when some index was built
(**`forecast_grounded`**), and so do the matches of a search (**`matches_ranked`**). The index cache may be
out of date; what is in it was once in the database (`run_known`).
-/

namespace Api

open Py Historical Foresight
open JustificationCodec (stored buildFeatureVector_stored)

variable {R Uuid : Type} [Field R] [LinearOrder R] [FloorRing R] [IsStrictOrderedRing R]
  [DecidableEq Uuid] {env : Env R Uuid}

/-- The databases that a run has had. -/
def Past (env : Env R Uuid) (s : Server R Uuid) (calls : List (Call R Uuid)) (db : Db R Uuid) :
    Prop :=
  ∃ s', Run.Reached (Server.next env) s calls s' ∧ s'.db = db

section
variable {sources : Db R Uuid → Prop} {db : Db R Uuid}

omit [IsStrictOrderedRing R] in
theorem sourced (hdb : sources db) : Sourced env sources (buildIndexForDeck env db) :=
  fun _ hdeck => buildIndexForDeck_yields hdb hdeck

omit [Field R] [LinearOrder R] [FloorRing R] [IsStrictOrderedRing R] in
theorem persistedAssessment_ok {T : Text R Uuid} {zoneId : Uuid} {timestamp : DateTime}
    {current : RiskAssessment R Uuid} (h : persistedAssessment T db zoneId timestamp = .ok current) :
    current ∈ db.riskAssessments ∧ current.zoneId = zoneId ∧
      current.timestamp = timestamp.instant := by
  unfold persistedAssessment at h
  split at h
  · cases h
  · rename_i found hfound
    cases h
    have hmem := List.mem_of_mem_head? hfound
    rw [RiskAssessmentRepository.zoneAndTimestampCandidates, List.mem_filter, decide_eq_true_eq] at hmem
    exact hmem

/-- A forecast for the assessment of the zone at that time. -/
structure ForecastOf (env : Env R Uuid) (sources : Db R Uuid → Prop) (db : Db R Uuid) (zoneId : Uuid)
    (timestamp : DateTime) (scenarioKey : String) (deckKey : Option String)
    (response : ForesightResponse R Uuid) : Prop where
  grounded : ∃ now ∈ db.riskAssessments, now.zoneId = zoneId ∧ now.timestamp = timestamp.instant ∧
    Grounded env sources zoneId scenarioKey deckKey now response.result
  summaries : List.Forall₂ (fun m summary => matchSummary env m = .ok summary)
    response.result.matched response.summaries

theorem getForecast_yields (hsqrt : ∀ x, 0 ≤ x → 0 ≤ env.sqrt x) (hdb : sources db) (zoneId : Uuid)
    (timestamp : DateTime) (scenarioKey : String) (windowSize topN : Int)
    (deckKey : Option String) : Service.Yields (Known env sources)
      (ForecastOf env sources db zoneId timestamp scenarioKey deckKey)
      (getForecast env db zoneId timestamp scenarioKey windowSize topN deckKey) := by
  refine .lift_bind fun _ _ => .lift_bind fun _ _ => .lift_bind fun current hcurrent => ?_
  obtain ⟨hmem, hzone, htime⟩ := persistedAssessment_ok hcurrent
  refine .bind (Service.Yields.mapError (generateOperationalForesight_yields hsqrt (sourced hdb) current
    (List.getLast?_concat ..))) fun result hresult => ?_
  refine .bind (Service.Yields.mapError (.lift fun _ h => h)) fun summaries hsummaries => .pure ?_
  exact ⟨⟨current, hmem, hzone, htime, hresult⟩, Except.mapM_eq_ok.1 hsummaries⟩

/-- The most similar incidents to the assessment of the zone at that time. -/
structure MatchesOf (env : Env R Uuid) (sources : Db R Uuid → Prop) (db : Db R Uuid) (zoneId : Uuid)
    (timestamp : DateTime) (topN : Int) (deckKey : Option String)
    (response : MatchesResponse R Uuid) : Prop where
  bounds : 1 ≤ topN ∧ topN ≤ maxTopN
  ranked : ∃ current ∈ db.riskAssessments, current.zoneId = zoneId ∧
    current.timestamp = timestamp.instant ∧
      Ranked env sources (searchedDecks deckKey) current
        (RiskAssessmentRepository.historyByZone db zoneId 1 (some timestamp.instant) none).head? topN
        response.incidents

omit [IsStrictOrderedRing R] in
theorem getMatches_yields (hdb : sources db) (zoneId : Uuid) (timestamp : DateTime) (topN : Int)
    (deckKey : Option String) : Service.Yields (Known env sources)
      (MatchesOf env sources db zoneId timestamp topN deckKey)
      (getMatches env db zoneId timestamp topN deckKey) := by
  refine .lift_bind fun _ hbounds => .lift_bind fun current hcurrent => ?_
  obtain ⟨hmem, hzone, htime⟩ := persistedAssessment_ok hcurrent
  refine .bind (Service.Yields.mapError (findSimilarIncidents_yields (sourced hdb) current _ topN
    deckKey)) fun incidents hincidents => .pure ?_
  refine ⟨?_, current, hmem, hzone, htime, hincidents⟩
  unfold inBounds at hbounds
  split at hbounds
  · assumption
  · cases hbounds

/-- What a lookup answers with rests on what the sources had. -/
def Cited (env : Env R Uuid) (sources : Db R Uuid → Prop) (db : Db R Uuid) :
    Lookup Uuid → LookupResponse R Uuid → Prop
  | .incidentMatches zoneId timestamp topN deckKey, .incidentMatches response =>
    MatchesOf env sources db zoneId timestamp topN deckKey response
  | .forecast zoneId timestamp scenarioKey _ _ deckKey, .forecast response =>
    ForecastOf env sources db zoneId timestamp scenarioKey deckKey response
  | .analytics _, .analytics _ => True
  | _, _ => False

theorem call_yields (hsqrt : ∀ x, 0 ≤ x → 0 ≤ env.sqrt x) (hdb : sources db) (q : Lookup Uuid) :
    Service.Yields (Known env sources) (Cited env sources db q) (q.call env db) := by
  cases q with
  | incidentMatches zoneId timestamp topN deckKey =>
    exact (getMatches_yields hdb zoneId timestamp topN deckKey).bind fun _ h => .pure h
  | analytics deckKey =>
    exact (Service.Yields.mapError (computeAnalytics_yields (sourced hdb) deckKey)).bind fun _ _ =>
      .pure trivial
  | forecast zoneId timestamp scenarioKey windowSize topN deckKey =>
    exact (getForecast_yields hsqrt hdb zoneId timestamp scenarioKey windowSize topN deckKey).bind
      fun _ h => .pure h

end

/-! ## Runs -/

theorem run_known (hsqrt : ∀ x, 0 ≤ x → 0 ≤ env.sqrt x) (state : State R Uuid)
    (calls : List (Call R Uuid)) :
    Known env (Past env ⟨state, []⟩ calls) (Server.run env ⟨state, []⟩ calls).indexCache := by
  let I (V : Server R Uuid → Prop) (s : Server R Uuid) : Prop :=
    Known env (fun db => ∃ s', V s' ∧ s'.db = db) s.indexCache
  have hmono : ∀ V V' : Server R Uuid → Prop, (∀ x, V x → V' x) → ∀ x, I V x → I V' x :=
    fun V V' hsub s h => h.mono fun db hdb => hdb.imp fun s' hs' => ⟨hsub s' hs'.1, hs'.2⟩
  have hstep : ∀ V s call, V s → I V s → I V (Server.next env s call) := by
    intro V s call hs h
    cases call with
    | action a => exact h
    | lookup q => exact (call_yields hsqrt ⟨s, hs, rfl⟩ q s.indexCache h).1
  exact Run.reached_invariant hmono hstep fun _ hentry => by cases hentry

theorem answer_cited (hsqrt : ∀ x, 0 ≤ x → 0 ≤ env.sqrt x) (state : State R Uuid)
    (calls : List (Call R Uuid)) (q : Lookup Uuid) {response : LookupResponse R Uuid}
    (h : (Server.run env ⟨state, []⟩ calls).answer env q = .ok response) :
    Cited env (Past env ⟨state, []⟩ calls) (Server.run env ⟨state, []⟩ calls).db q response :=
  (call_yields hsqrt ⟨_, Run.reached_last, rfl⟩ q _ (run_known hsqrt state calls)).2 response h

/-! ## Forecasts -/

/-- An assessment that one of the databases had. -/
def OnceStored (past : Db R Uuid → Prop) (a : RiskAssessment R Uuid) : Prop :=
  ∃ db, past db ∧ a ∈ db.riskAssessments

/-- A response whose every number is that of stored assessments, or between those of two. -/
structure Evidenced (past : Db R Uuid → Prop) (zoneId : Uuid) (scenarioKey : String)
    (response : ForesightResponse R Uuid) : Prop where
  evidence : ∀ point ∈ response.result.forecast, ∀ item ∈ point.evidence,
    ∃ a, OnceStored past a ∧ a.zoneId = item.zoneId ∧ a.timestamp = item.observedTimestamp ∧
      a.tier = item.observedTier ∧ a.compoundRiskScore = item.observedRisk
  risk : ∀ point ∈ response.result.forecast, ∀ risk ∈ point.projectedRisk,
    (∃ item ∈ point.evidence, item.observedRisk ≤ risk) ∧
      ∃ item ∈ point.evidence, risk ≤ item.observedRisk
  tier : ∀ point ∈ response.result.forecast, ∀ tier ∈ point.projectedTier,
    ∃ item ∈ point.evidence, item.observedTier = tier
  anchor : ∀ summary ∈ response.summaries, ∃ a, OnceStored past a ∧ a.zoneId = summary.zoneId ∧
    a.timestamp = summary.anchorTimestamp
  other : ∀ summary ∈ response.summaries,
    ¬(summary.scenarioKey = scenarioKey ∧ summary.zoneId = zoneId)
  similarity : ∀ summary ∈ response.summaries, summary.similarity ∈ Set.Ioc 0 1
  confidence : WeakestLink response.result.confidence
  contributions : Accounted response.result.matched response.result.deckContributions

section
variable {sources : Db R Uuid → Prop} {db : Db R Uuid} {zoneId : Uuid} {timestamp : DateTime}
  {scenarioKey : String} {deckKey : Option String} {response : ForesightResponse R Uuid}

omit [IsStrictOrderedRing R] [DecidableEq Uuid] in
theorem step_stored {decks : List HistoricalDeck} {t : Trajectory R Uuid}
    (ht : Traced env sources decks t) {step : TrajectoryStep R Uuid} (hstep : step ∈ t.steps) :
    ∃ a, OnceStored sources a ∧ a.zoneId = t.zoneId ∧ a.timestamp = step.timestamp ∧
      a.tier = step.tier ∧ a.compoundRiskScore = step.risk := by
  obtain ⟨deck, -, tick, ⟨db, hdb, hstored⟩, rfl, hzone, -⟩ := ht.steps step hstep
  obtain ⟨previous, hvector⟩ := hstored.featureVector
  refine ⟨tick.assessment, ⟨db, hdb, hstored.assessment⟩, hstored.zoneId.trans hzone, rfl, rfl, ?_⟩
  show _ = tick.featureVector.compoundRiskScore
  rw [hvector]
  rfl

omit [IsStrictOrderedRing R] [DecidableEq Uuid] in
theorem ForecastOf.evidenced
    (h : ForecastOf env sources db zoneId timestamp scenarioKey deckKey response) :
    Evidenced sources zoneId scenarioKey response := by
  obtain ⟨⟨now, -, -, -, hgrounded⟩, hsummaries⟩ := h
  have hsummary : ∀ summary ∈ response.summaries, ∃ m ∈ response.result.matched,
      summary.scenarioKey = m.trajectory.scenarioKey ∧ summary.zoneId = m.trajectory.zoneId ∧
        summary.similarity = m.similarity ∧
          ∃ step ∈ m.trajectory.steps, summary.anchorTimestamp = step.timestamp := by
    intro summary hs
    obtain ⟨m, hm, hok⟩ := hsummaries.exists_of_mem_right hs
    obtain ⟨title, -, hok⟩ := Except.bind_eq_ok.1 hok
    rw [anchorStep_ok (hgrounded.sighted m hm).anchor_lt] at hok
    cases hok
    exact ⟨m, hm, rfl, rfl, rfl, _, List.get_mem _ _, rfl⟩
  refine ⟨fun point hpoint item hitem => ?_, fun point hpoint risk hrisk => ?_,
    fun point hpoint tier htier => ?_, fun summary hs => ?_, fun summary hs => ?_,
    fun summary hs => ?_, hgrounded.confidence, hgrounded.accounted⟩
  · obtain ⟨m, hm, -, hzone, -, step, hstep, hrisk, htier, htime⟩ :=
      (hgrounded.founded point hpoint).evidence item hitem
    rw [hzone, hrisk, htier, htime]
    exact step_stored (hgrounded.traced m hm) hstep
  · have hfounded := hgrounded.founded point hpoint
    exact ⟨hfounded.risk_ge risk hrisk, hfounded.risk_le risk hrisk⟩
  · exact (hgrounded.founded point hpoint).tier_observed tier htier
  · obtain ⟨m, hm, -, hzone, -, step, hstep, htime⟩ := hsummary summary hs
    obtain ⟨a, ha, hazone, hatime, -⟩ := step_stored (hgrounded.traced m hm) hstep
    exact ⟨a, ha, hazone.trans hzone.symm, hatime.trans htime.symm⟩
  · obtain ⟨m, hm, hkey, hzone, -⟩ := hsummary summary hs
    rw [hkey, hzone]
    exact hgrounded.other m hm
  · obtain ⟨m, hm, -, -, hsimilarity, -⟩ := hsummary summary hs
    rw [hsimilarity]
    exact ⟨(hgrounded.sighted m hm).similarity_pos, (hgrounded.sighted m hm).similarity_le_one⟩

end

/-- **A forecast invents nothing**, whatever the process has done since it was started: it is about an
assessment that is stored now, and every figure it cites was stored at some time. -/
theorem forecast_grounded (hsqrt : ∀ x, 0 ≤ x → 0 ≤ env.sqrt x) (state : State R Uuid)
    (calls : List (Call R Uuid)) {zoneId : Uuid} {timestamp : DateTime} {scenarioKey : String}
    {windowSize topN : Int} {deckKey : Option String} {response : ForesightResponse R Uuid}
    (h : (Server.run env ⟨state, []⟩ calls).answer env
      (.forecast zoneId timestamp scenarioKey windowSize topN deckKey) =
        .ok (.forecast response)) :
    (∃ now ∈ (Server.run env ⟨state, []⟩ calls).db.riskAssessments, now.zoneId = zoneId ∧
      now.timestamp = timestamp.instant ∧ response.result.currentTier = now.tier ∧
        response.result.currentRiskScore = now.compoundRiskScore) ∧
      Evidenced (Past env ⟨state, []⟩ calls) zoneId scenarioKey response := by
  have hforecast : ForecastOf env (Past env ⟨state, []⟩ calls) _ zoneId timestamp scenarioKey deckKey
    response := answer_cited hsqrt state calls _ h
  refine ⟨?_, hforecast.evidenced⟩
  obtain ⟨now, hmem, hzone, htime, hgrounded⟩ := hforecast.grounded
  exact ⟨now, hmem, hzone, htime, hgrounded.now.2⟩

/-- An assessment of an incident's zone and window. -/
def incidentAssessment (id : ℕ) (minute : Int) : RiskAssessment ℚ ℕ where
  assessmentId := id
  zoneId := compressorHouse
  timestamp := minute * 60000000
  compoundRiskScore := 16
  confidence := 1
  tier := .normal
  justification := ⟨1, [], [], 1, .normal, .normal⟩

/-- Two of them, a quarter of an hour apart. -/
def incidentPlant : Db ℚ ℕ := { leakPlant with
  riskAssessments := (Table.empty.upsert (incidentAssessment 1 12)).upsert (incidentAssessment 2 27) }

/-- A process started with this database. -/
def started : Server ℚ ℕ := ⟨⟨.seeded incidentPlant, {}⟩, []⟩

def indexCall : List (Call ℚ ℕ) := [.lookup (.analytics none)]

/-- The risk that is projected at each horizon. -/
def LookupResponse.projectedRisks : LookupResponse ℚ ℕ → Option (List (Int × Option ℚ))
  | .forecast response => some (response.result.forecast.map fun point =>
      (point.horizonMinutes, point.projectedRisk))
  | _ => none

theorem forecast_grounded_incident : ∃ response,
    (started.run leakEnv indexCall).answer leakEnv
      (.forecast compressorHouse ⟨12 * 60000000, 0⟩ "live" 1 5 none) = .ok (.forecast response) ∧
    response.result.forecast.map (fun point => (point.horizonMinutes, point.projectedRisk)) =
      [(15, some 16), (30, none), (60, none)] ∧
    Evidenced (Past leakEnv started indexCall) compressorHouse "live" response := by
  have hrun : ((started.run leakEnv indexCall).answer leakEnv
      (.forecast compressorHouse ⟨12 * 60000000, 0⟩ "live" 1 5 none)).toOption.map
        LookupResponse.projectedRisks = some (some [(15, some 16), (30, none), (60, none)]) := by
    decide +kernel
  obtain ⟨answer, hanswer, hrisks⟩ := Except.toOption_map_eq_some.1 hrun
  cases answer with
  | forecast response =>
    exact ⟨response, hanswer, Option.some.inj hrisks,
      (forecast_grounded (fun _ h => h) _ indexCall hanswer).2⟩
  | incidentMatches => cases hrisks
  | analytics => cases hrisks

/-! ## Similar incidents -/

/-- The match is of a tick that was stored, in a zone and the window of its incident, and its numbers and
texts are those of the tick. -/
structure RecordedMatch (env : Env R Uuid) (past : Db R Uuid → Prop)
    (current : RiskAssessment R Uuid) (currentVector : FeatureVector R) (m : IncidentMatch R Uuid) :
    Prop where
  tick : ∃ a previous incident deck, OnceStored past a ∧ a.assessmentId ≠ current.assessmentId ∧
    deck ∈ historicalDecks ∧ incident ∈ deck.incidents ∧ incident.Covers env a ∧ m.zoneId = a.zoneId ∧
      m.scenarioKey = incident.scenarioKey ∧ m.rootCause = incident.rootCause ∧
        m.lessonsLearned = lessonsForRules a.justification.rulesFired ∧
          similarityScore env.sqrt currentVector
            (JustificationCodec.buildFeatureVector (stored a) previous) = .ok m.similarity

omit [IsStrictOrderedRing R] [DecidableEq Uuid] in
theorem recordedMatch_of_from {sources : Db R Uuid → Prop} {current : RiskAssessment R Uuid}
    {currentVector : FeatureVector R} {p : IndexedTick R Uuid × R} {m : IncidentMatch R Uuid}
    (h : MatchOf env currentVector p m) {deck : HistoricalDeck} (hdeck : deck ∈ historicalDecks)
    (hfrom : From env sources deck p.1)
    (hother : p.1.assessment.assessmentId ≠ current.assessmentId)
    (hsimilarity : similarityScore env.sqrt currentVector p.1.featureVector = .ok p.2) :
    RecordedMatch env sources current currentVector m := by
  obtain ⟨db, hdb, hstored⟩ := hfrom
  obtain ⟨previous, hvector⟩ := hstored.featureVector
  refine ⟨p.1.assessment, previous.map stored, p.1.incident, deck, ⟨db, hdb, hstored.assessment⟩, hother,
    hdeck, hstored.incident, hstored.covers, h.zoneId.trans hstored.zoneId.symm, h.scenarioKey, h.rootCause,
    h.lessonsLearned, ?_⟩
  rw [buildFeatureVector_stored, ← hvector, h.similarity]
  exact hsimilarity

omit [DecidableEq Uuid] in
theorem similarityScore_mem_unit (hsqrt : ∀ x, 0 ≤ x → 0 ≤ env.sqrt x) {a b : FeatureVector R}
    {similarity : R} (h : similarityScore env.sqrt a b = .ok similarity) :
    similarity ∈ Set.Ioc 0 1 := by
  have hdistance : 0 ≤ weightedEuclideanDistance env.sqrt a b :=
    hsqrt _ (sum_weightedSquares_nonneg a b)
  obtain ⟨-, rfl⟩ := div_eq_ok.1 h
  exact ⟨by positivity, div_le_one_of_le₀ (by linarith) (by positivity)⟩

theorem length_sliceTo_le {α : Type} {n : Int} (hn : 1 ≤ n) (xs : List α) :
    (sliceTo n xs).length ≤ n.toNat := by
  rw [sliceTo, if_pos (by omega)]
  exact List.length_take_le _ _

theorem sliceTo_sublist {α : Type} (n : Int) (xs : List α) : (sliceTo n xs).Sublist xs := by
  unfold sliceTo
  split <;> exact List.take_sublist _ _

/-- **A search cites what was stored**, at most twenty matches, the most similar first, none of them the
assessment that it is about. -/
theorem matches_ranked (hsqrt : ∀ x, 0 ≤ x → 0 ≤ env.sqrt x) (state : State R Uuid)
    (calls : List (Call R Uuid)) {zoneId : Uuid} {timestamp : DateTime} {topN : Int}
    {deckKey : Option String} {response : MatchesResponse R Uuid}
    (h : (Server.run env ⟨state, []⟩ calls).answer env
      (.incidentMatches zoneId timestamp topN deckKey) = .ok (.incidentMatches response)) :
    ∃ current ∈ (Server.run env ⟨state, []⟩ calls).db.riskAssessments,
      current.zoneId = zoneId ∧ current.timestamp = timestamp.instant ∧
      response.incidents.length ≤ 20 ∧
      response.incidents.Pairwise (fun m m' => m'.similarity ≤ m.similarity) ∧
      ∀ m ∈ response.incidents, m.similarity ∈ Set.Ioc 0 1 ∧
        RecordedMatch env (Past env ⟨state, []⟩ calls) current
          (JustificationCodec.buildFeatureVector (stored current)
            ((RiskAssessmentRepository.historyByZone (Server.run env ⟨state, []⟩ calls).db zoneId 1
              (some timestamp.instant) none).head?.map stored)) m := by
  have hmatches : MatchesOf env (Past env ⟨state, []⟩ calls) _ zoneId timestamp topN deckKey
    response := answer_cited hsqrt state calls _ h
  obtain ⟨⟨hone, htop⟩, current, hmem, hzone, htime, ranked, hranked, hsorted, hmatches⟩ := hmatches
  have hslice := sliceTo_sublist topN ranked
  refine ⟨current, hmem, hzone, htime, ?_, ?_, fun m hm => ?_⟩
  · have hlength := length_sliceTo_le hone ranked
    have hbound : topN.toNat ≤ 20 := Int.toNat_le.2 htop
    rw [← hmatches.length_eq]
    omega
  · have hsame : response.incidents.map IncidentMatch.similarity =
        (sliceTo topN ranked).map Prod.snd := by
      symm
      rw [← List.forall₂_eq_eq_eq, List.forall₂_map_left_iff, List.forall₂_map_right_iff]
      exact hmatches.imp fun _ _ h => h.similarity.symm
    have hpairwise : ((sliceTo topN ranked).map Prod.snd).Pairwise fun x y => y ≤ x :=
      List.pairwise_map.2 (hsorted.sublist hslice)
    rw [← hsame] at hpairwise
    exact List.pairwise_map.1 hpairwise
  · obtain ⟨p, hp, hmatch⟩ := hmatches.exists_of_mem_right hm
    obtain ⟨⟨deck, hdeck, hfrom⟩, hother, hsimilarity⟩ := hranked p (hslice.subset hp)
    rw [buildFeatureVector_stored]
    refine ⟨?_, recordedMatch_of_from hmatch (searchedDecks_registered hdeck) hfrom hother hsimilarity⟩
    rw [hmatch.similarity]
    exact similarityScore_mem_unit hsqrt hsimilarity

def LookupResponse.similarities : LookupResponse ℚ ℕ → Option (List ℚ)
  | .incidentMatches response => some (response.incidents.map IncidentMatch.similarity)
  | _ => none

theorem matches_ranked_incident : ∃ response,
    (started.run leakEnv indexCall).answer leakEnv
      (.incidentMatches compressorHouse ⟨12 * 60000000, 0⟩ 5 none) =
        .ok (.incidentMatches response) ∧
    response.incidents.map IncidentMatch.similarity = [1] ∧
    ∃ current ∈ (started.run leakEnv indexCall).db.riskAssessments, ∃ currentVector,
      ∀ m ∈ response.incidents,
        RecordedMatch leakEnv (Past leakEnv started indexCall) current currentVector m := by
  have hrun : ((started.run leakEnv indexCall).answer leakEnv
      (.incidentMatches compressorHouse ⟨12 * 60000000, 0⟩ 5 none)).toOption.map
        LookupResponse.similarities = some (some [1]) := by
    decide +kernel
  obtain ⟨answer, hanswer, hsimilarities⟩ := Except.toOption_map_eq_some.1 hrun
  cases answer with
  | incidentMatches response =>
    obtain ⟨current, hmem, -, -, -, -, hrecorded⟩ :=
      matches_ranked (fun _ h => h) _ indexCall hanswer
    exact ⟨response, hanswer, Option.some.inj hsimilarities, current, hmem, _, fun m hm =>
      (hrecorded m hm).2⟩
  | forecast => cases hsimilarities
  | analytics => cases hsimilarities

end Api
