import IndustrialSafety.Historical.Process
import IndustrialSafety.Lib.Run
import IndustrialSafety.Lib.Upsert
import IndustrialSafety.Services.Proof.Identity
import IndustrialSafety.Services.Proof.Replay

/-!
# Coherence of the index cache

The index cache is filled once for each deck. Where every index in it is what the database gives now
(`Coherent`), a query answers as with fresh indexes and keeps the cache so (`answer_lockstep`). A
tick keeps it so unless it changes an assessment that a cached deck covers (`freshIndex_persist`);
so in a run whose steps are all `Harmless` every answer is fresh (`answers_fresh`).
-/

namespace Historical

open Py

section
variable {R Uuid : Type} [Field R] [LinearOrder R] [FloorRing R] [DecidableEq Uuid]
  {env : Env R Uuid} {db : Db R Uuid} {decks : List HistoricalDeck}

/-- Every cached index of the decks is what the database gives now. -/
abbrev Coherent (env : Env R Uuid) (db : Db R Uuid) (decks : List HistoricalDeck) :
    IndexCache R Uuid → Prop :=
  Memo.Coherent HistoricalDeck.key (freshIndex env db) decks

/-- The queries of a process use these decks: the registered ones are among them, and no two have
one key. -/
structure Registry (decks : List HistoricalDeck) : Prop where
  registered : ∀ deck ∈ historicalDecks, deck ∈ decks
  key : ∀ deck ∈ decks, ∀ deck' ∈ decks, deck.key = deck'.key → deck = deck'

/-! ## Queries

`index` and `index'` give the same index for each deck. -/

section
variable {S : IndexCache R Uuid → IndexCache R Uuid → Prop} {index index' : Index R Uuid}
  (hindex : ∀ deck ∈ decks, ∀ c c', S c c' →
    Service.Lockstep S Eq (index deck c) (index' deck c'))

include hindex

omit [Field R] [LinearOrder R] [FloorRing R] in
theorem outcomeTier_lockstep (hdecks : ∀ deck ∈ historicalDecks, deck ∈ decks)
    (incident : HistoricalIncident) (zoneId : Uuid) {c c' : IndexCache R Uuid} (h : S c c') :
    Service.Lockstep S Eq (outcomeTier index incident zoneId c)
      (outcomeTier index' incident zoneId c') := by
  unfold outcomeTier
  cases hdeck : historicalDecks.find? (incident ∈ ·.incidents) with
  | none => exact .ok rfl h
  | some deck =>
    have hmem := hdecks deck (List.mem_of_find?_eq_some hdeck)
    refine (hindex deck hmem c c' h).bind fun ix _ c c' _ _ heq h => ?_
    subst heq
    exact .ok rfl h

omit [FloorRing R] in
theorem scoreDeck_lockstep {sqrt : R → R} {currentVector : FeatureVector R} {currentId : Uuid}
    {deck : HistoricalDeck} (hdeck : deck ∈ decks) {c c' : IndexCache R Uuid} (h : S c c') :
    Service.Lockstep S Eq (scoreDeck index sqrt currentVector currentId deck c)
      (scoreDeck index' sqrt currentVector currentId deck c') := by
  refine (hindex deck hdeck c c' h).bind fun ix _ c c' _ _ heq h => ?_
  subst heq
  refine .mapM_eq (fun tick _ c c' h => ?_) h
  refine (Service.Lockstep.lift _ h).bind fun s _ c c' _ _ heq h => ?_
  subst heq
  exact .ok rfl h

theorem incidentMatch_lockstep (hdecks : ∀ deck ∈ historicalDecks, deck ∈ decks)
    (currentVector : FeatureVector R) (tick : IndexedTick R Uuid) (similarity : R)
    {c c' : IndexCache R Uuid} (h : S c c') :
    Service.Lockstep S Eq (incidentMatch index env currentVector tick similarity c)
      (incidentMatch index' env currentVector tick similarity c') := by
  refine (Service.Lockstep.lift _ h).bind fun summary _ c c' _ _ heq h => ?_
  subst heq
  refine (outcomeTier_lockstep hindex hdecks _ _ h).bind fun tier _ c c' _ _ heq h => ?_
  subst heq
  exact .ok rfl h

omit hindex in
theorem searchedDecks_registered {deckKey : Option String} {deck : HistoricalDeck}
    (h : deck ∈ searchedDecks deckKey) : deck ∈ historicalDecks := by
  cases deckKey with
  | none => exact h
  | some key => exact List.mem_of_find?_eq_some (Option.mem_toList.1 h)

theorem findSimilarIncidents_lockstep (hdecks : ∀ deck ∈ historicalDecks, deck ∈ decks)
    (current : RiskAssessment R Uuid) (previous : Option (RiskAssessment R Uuid)) (topN : Int)
    (deckKey : Option String) {c c' : IndexCache R Uuid} (h : S c c') :
    Service.Lockstep S Eq (findSimilarIncidents index env current previous topN deckKey c)
      (findSimilarIncidents index' env current previous topN deckKey c') := by
  unfold findSimilarIncidents
  have hscored : Service.Lockstep S Eq
      ((searchedDecks deckKey).mapM (scoreDeck index env.sqrt
        (buildFeatureVector current previous) current.assessmentId) c)
      ((searchedDecks deckKey).mapM (scoreDeck index' env.sqrt
        (buildFeatureVector current previous) current.assessmentId) c') :=
    .mapM_eq (fun deck hdeck c c' h =>
      scoreDeck_lockstep hindex (hdecks deck (searchedDecks_registered hdeck)) h) h
  refine hscored.bind fun scored _ c c' _ _ heq h => ?_
  subst heq
  refine Service.Lockstep.mapM_eq (fun pair _ c c' h => ?_) h
  obtain ⟨tick, similarity⟩ := pair
  exact incidentMatch_lockstep hindex hdecks _ tick similarity h

omit [Field R] [LinearOrder R] [FloorRing R] in
theorem buildTrajectoriesForDeck_lockstep {deck : HistoricalDeck} (hdeck : deck ∈ decks)
    {c c' : IndexCache R Uuid} (h : S c c') :
    Service.Lockstep S Eq (Foresight.buildTrajectoriesForDeck index deck c)
      (Foresight.buildTrajectoriesForDeck index' deck c') := by
  refine (hindex deck hdeck c c' h).bind fun ix _ c c' _ _ heq h => ?_
  subst heq
  exact .ok rfl h

omit [LinearOrder R] [FloorRing R] in
theorem computeAnalytics_lockstep (hdecks : ∀ deck ∈ historicalDecks, deck ∈ decks)
    (deckKey : Option String) {c c' : IndexCache R Uuid} (h : S c c') :
    Service.Lockstep S Eq (computeAnalytics index deckKey c)
      (computeAnalytics index' deckKey c') := by
  unfold computeAnalytics
  have hindexed : Service.Lockstep S Eq
      ((historicalDecks.filter fun deck => ∀ key ∈ deckKey, deck.key = key).mapM index c)
      ((historicalDecks.filter fun deck => ∀ key ∈ deckKey, deck.key = key).mapM index' c') :=
    .mapM_eq (fun deck hdeck c c' h => hindex deck (hdecks deck (List.mem_of_mem_filter hdeck)) c c' h) h
  refine hindexed.bind fun ixs _ c c' _ _ heq h => ?_
  subst heq
  exact .ok rfl h

end

/-- The decks a query is given. -/
def Query.Uses (decks : List HistoricalDeck) : Query R Uuid → Prop
  | .buildTrajectoriesForDeck deck => deck ∈ decks
  | _ => True

theorem call_lockstep {S : IndexCache R Uuid → IndexCache R Uuid → Prop} {index index' : Index R Uuid}
    (hindex : ∀ deck ∈ decks, ∀ c c', S c c' →
      Service.Lockstep S Eq (index deck c) (index' deck c'))
    (hdecks : ∀ deck ∈ historicalDecks, deck ∈ decks) {q : Query R Uuid} (hq : q.Uses decks)
    {c c' : IndexCache R Uuid} (h : S c c') :
    Service.Lockstep S Eq (q.call env index c) (q.call env index' c') := by
  cases q with
  | findSimilarIncidents current previous topN deckKey =>
    refine (findSimilarIncidents_lockstep hindex hdecks current previous topN deckKey h).bind
      fun l _ c c' _ _ heq h => ?_
    subst heq
    exact .ok rfl h
  | buildTrajectoriesForDeck deck =>
    refine (buildTrajectoriesForDeck_lockstep hindex hq h).bind fun l _ c c' _ _ heq h => ?_
    subst heq
    exact .ok rfl h
  | computeAnalytics deckKey =>
    refine (computeAnalytics_lockstep hindex hdecks deckKey h).bind fun l _ c c' _ _ heq h => ?_
    subst heq
    exact .ok rfl h

/-- A query on a coherent cache and the query on fresh indexes. -/
theorem answer_lockstep (hdecks : Registry decks) {q : Query R Uuid} (hq : q.Uses decks)
    {c : IndexCache R Uuid} (h : Coherent env db decks c) :
    Service.Lockstep (fun c _ => Coherent env db decks c) Eq
      (q.call env (buildIndexForDeck env db) c)
      (q.call env (fun deck => liftM (freshIndex env db deck)) []) :=
  call_lockstep (fun _ hdeck _ c' h => Memo.cached_lockstep hdecks.key hdeck h c')
    hdecks.registered hq h

/-! ## What an index covers -/

/-- The assessment is in the incident's window, in one of its zones. -/
def HistoricalIncident.Covers (env : Env R Uuid) (incident : HistoricalIncident)
    (a : RiskAssessment R Uuid) : Prop :=
  ∃ summary : ScenarioCatalog.ScenarioSummary Uuid,
    ScenarioCatalog.getScenarioSummary env.math env.text env.files incident.scenarioKey =
      .ok (some summary) ∧ a.zoneId ∈ summary.zoneIds ∧
        summary.startTime.instant ≤ a.timestamp ∧ a.timestamp ≤ summary.endTime.instant

/-- An incident of the deck covers the assessment. -/
def Covers (env : Env R Uuid) (deck : HistoricalDeck) (a : RiskAssessment R Uuid) : Prop :=
  ∃ incident ∈ deck.incidents, incident.Covers env a

omit [Field R] [LinearOrder R] [FloorRing R] in
theorem fetchZoneAssessments_congr {db' : Db R Uuid} {zoneId : Uuid} {startTime endTime : Instant}
    (h : Replay.assessmentsIn db' zoneId startTime endTime =
      Replay.assessmentsIn db zoneId startTime endTime) :
    Replay.fetchZoneAssessments db' zoneId startTime endTime =
      Replay.fetchZoneAssessments db zoneId startTime endTime := by
  rw [Replay.fetchZoneAssessments, Replay.fetchZoneAssessments, Replay.historyByZone_window,
    Replay.historyByZone_window, h]

/-- A row that the deck does not cover, in place of no row that it covers. -/
theorem freshIndex_persist {deck : HistoricalDeck} {a : RiskAssessment R Uuid}
    (ha : ¬Covers env deck a)
    (hold : ∀ b, db.riskAssessments.get? (a.assessmentId, a.timestamp) = some b →
      ¬Covers env deck b) :
    freshIndex env (RiskPipeline.persist db a) deck = freshIndex env db deck := by
  unfold freshIndex
  rw [Except.mapM_congr fun incident hincident => ?_]
  unfold indexIncident
  cases hsummary : ScenarioCatalog.getScenarioSummary env.math env.text env.files
    incident.scenarioKey with
  | error e => rfl
  | ok summary? =>
    cases summary? with
    | none => rfl
    | some summary =>
      have htimeline : ∀ zoneId ∈ summary.zoneIds,
          Replay.fetchZoneAssessments (RiskPipeline.persist db a) zoneId
            summary.startTime.instant summary.endTime.instant =
          Replay.fetchZoneAssessments db zoneId summary.startTime.instant
            summary.endTime.instant := by
        intro zoneId hzone
        -- a row of this window would be covered
        have hout : ∀ b : RiskAssessment R Uuid, ¬Covers env deck b →
            decide (b.zoneId = zoneId ∧ summary.startTime.instant ≤ b.timestamp ∧
              b.timestamp ≤ summary.endTime.instant) = false := by
          intro b hb
          rw [decide_eq_false_iff_not]
          intro ⟨hz, hwindow⟩
          exact hb ⟨incident, hincident, summary, hsummary, hz ▸ hzone, hwindow⟩
        exact fetchZoneAssessments_congr
          (Table.filter_upsert (hout a ha) fun b hb => hout b (hold b hb))
      simp only [Except.ok_bind, Replay.replayOf, List.flatMap_map]
      congr 1
      exact List.flatMap_congr fun zoneId hzone => by rw [htimeline zoneId hzone]

end

/-! ## Runs -/

section
variable {R Uuid : Type} [Field R] [LinearOrder R] [IsStrictOrderedRing R] [FloorRing R]
  [DecidableEq Uuid]

/-- The action uses the decks only, and a tick changes no assessment that a cached deck covers: the
row it writes is stored as it is, or neither it nor the row it replaces is covered. -/
def Action.Harmless (env : Env R Uuid) (decks : List HistoricalDeck) (s : Process R Uuid) :
    Action R Uuid → Prop
  | .query q => q.Uses decks
  | .runZoneTick zoneId gasType simTime tickId cache tierState => ∀ a,
    RiskPipeline.tickRow env.math env.text s.db zoneId gasType simTime tickId cache tierState =
        some a →
      a ∈ s.db.riskAssessments ∨
      ∀ deck ∈ decks, (s.indexCache.lookup deck.key).isSome → ¬Covers env deck a ∧
        ∀ b, s.db.riskAssessments.get? (a.assessmentId, a.timestamp) = some b → ¬Covers env deck b

/-- A query is answered as with indexes built from the database at that moment. -/
def Action.Fresh (env : Env R Uuid) (s : Process R Uuid) : Action R Uuid → Prop
  | .query q => s.answer env q = freshAnswer env s.db q
  | .runZoneTick .. => True

variable {env : Env R Uuid} {decks : List HistoricalDeck}

theorem next_coherent (hdecks : Registry decks) (s : Process R Uuid) (a : Action R Uuid)
    (hs : Coherent env s.db decks s.indexCache) (ha : a.Harmless env decks s) :
    Coherent env (s.next env a).db decks (s.next env a).indexCache := by
  cases a with
  | query q => exact (answer_lockstep hdecks ha hs).state
  | runZoneTick zoneId gasType simTime tickId cache tierState =>
    show Coherent env (RiskPipeline.runZoneTick env.math env.text zoneId gasType simTime tickId
      cache tierState s.db).2 decks s.indexCache
    rw [RiskPipeline.runZoneTick_effect]
    cases hrow : RiskPipeline.tickRow env.math env.text s.db zoneId gasType simTime tickId cache
      tierState with
    | none => exact hs
    | some row =>
      rcases ha row hrow with hstored | huncovered
      · have hsame : RiskPipeline.persist s.db row = s.db := by
          rw [RiskPipeline.persist, Table.upsert_of_mem hstored]
        rw [Option.elim_some, hsame]
        exact hs
      · refine hs.congr fun deck hdeck hcached => ?_
        obtain ⟨hnew, hold⟩ := huncovered deck hdeck hcached
        exact freshIndex_persist hnew hold

/-- **A process that never changes what a cached deck covers answers from fresh indexes.** -/
theorem answers_fresh (env : Env R Uuid) (hdecks : Registry decks) (db : Db R Uuid)
    (actions : List (Action R Uuid))
    (h : Run.Along (Process.next env) (Action.Harmless env decks) ⟨db, []⟩ actions) :
    Run.Along (Process.next env) (Action.Fresh env) ⟨db, []⟩ actions := by
  refine h.imp (next_coherent hdecks) (fun s a hs ha => ?_) Memo.coherent_nil
  cases a with
  | query q => exact (answer_lockstep hdecks ha hs).result_eq
  | runZoneTick => trivial

end

/-! ## A process -/

/-- One catalogued incident: CO in one zone, from minute 12 to minute 30. -/
def leakEnv : Env ℚ ℕ where
  math := Math.dyadic
  text := plainText
  floatStr1 := fun _ => ""
  sqrt := id
  files := [{
    stem := "demo_vizag_clairton"
    scenario := {
      seed := 42
      startTime := "0+0"
      sensorEvents := [{
        name := "co_pressure_rise"
        zoneKey := "zone-compressor-house"
        gasType := "CO"
        simTime := 12
        durationMinutes := 18
        curve := "exponential_rise"
        params := [("start_value", 5), ("rate", 2 / 25)]
        sampleIntervalMinutes := 2 }] } }]

def compressorHouse : ℕ := plainText.resolveId "zone-compressor-house"

def leakPlant : Db ℚ ℕ where
  zones := Table.empty.upsert ⟨compressorHouse, none⟩
  sensors := Table.empty.upsert ⟨7, compressorHouse, "CO", none, 35⟩

/-- A query, a tick in the given minute, and the query again. -/
def queryTickQuery (minute : Int) : List (Action ℚ ℕ) :=
  [.query (.computeAnalytics none),
    .runZoneTick compressorHouse "CO" ⟨minute * 60000000, 0⟩ 0 {} Tiering.TierState.initial,
    .query (.computeAnalytics none)]

theorem registry_historicalDecks : Registry historicalDecks := by
  have hkeys : (historicalDecks.map HistoricalDeck.key).Nodup := by decide +kernel
  exact ⟨fun _ h => h, fun deck hdeck deck' hdeck' h => List.inj_on_of_nodup_map hkeys hdeck hdeck' h⟩

/-- The window of every summary ends with minute 30. -/
theorem leakEnv_endTime {key : String} {summary : ScenarioCatalog.ScenarioSummary ℕ}
    (h : ScenarioCatalog.getScenarioSummary leakEnv.math leakEnv.text leakEnv.files key =
      .ok (some summary)) : summary.endTime.instant = 1800000000 := by
  have hends : (ScenarioCatalog.loadCatalog leakEnv.math leakEnv.text leakEnv.files).toOption.map
      (fun summaries => decide (∀ s ∈ summaries, s.endTime.instant = 1800000000)) = some true := by
    decide +kernel
  obtain ⟨summaries, hsummaries, hall⟩ := Except.toOption_map_eq_some.1 hends
  obtain ⟨summaries', hsummaries', hfind⟩ := Except.bind_eq_ok.1 h
  cases hsummaries.symm.trans hsummaries'
  exact of_decide_eq_true hall summary (List.mem_of_find?_eq_some (Except.ok.inj hfind))

theorem answers_fresh_after_window : Run.Along (Process.next leakEnv) (Action.Fresh leakEnv)
    ⟨leakPlant, []⟩ (queryTickQuery 31) := by
  refine answers_fresh leakEnv registry_historicalDecks leakPlant _ ⟨trivial, ?_, trivial, trivial⟩
  intro a ha
  have hout (b : RiskAssessment ℚ ℕ) (hb : b.timestamp = 31 * 60000000) (deck : HistoricalDeck) :
      ¬Covers leakEnv deck b := by
    rintro ⟨incident, -, summary, hsummary, -, -, hend⟩
    rw [leakEnv_endTime hsummary, hb] at hend
    exact absurd hend (by decide)
  have htime := (RiskPipeline.tickRow_columns ha).2.1
  refine .inr fun deck _ _ => ⟨hout a htime deck, fun b hb => ?_⟩
  exact hout b ((Prod.mk.inj (Table.get?_eq_some.1 hb).2).2.trans htime) deck

/-- The number of ticks that an analysis counted. -/
def Answer.indexedTicks : Answer ℚ ℕ → ℕ
  | .analytics a => a.totalIndexedTicks
  | _ => 0

/-- The process after the first query and a tick in minute 12. -/
def leakProcess : Process ℚ ℕ :=
  (Process.next leakEnv (Process.next leakEnv ⟨leakPlant, []⟩ (.query (.computeAnalytics none)))
    (.runZoneTick compressorHouse "CO" ⟨12 * 60000000, 0⟩ 0 {} Tiering.TierState.initial))

theorem leakProcess_answer : (leakProcess.answer leakEnv (.computeAnalytics none)).toOption.map
    Answer.indexedTicks = some 0 := by
  decide +kernel

theorem leakProcess_freshAnswer : (freshAnswer leakEnv leakProcess.db
    (.computeAnalytics none)).toOption.map Answer.indexedTicks = some 1 := by
  decide +kernel

/-- The deck was indexed before its incident was replayed: the query misses the tick. -/
theorem answers_stale_in_window : ¬Run.Along (Process.next leakEnv) (Action.Fresh leakEnv)
    ⟨leakPlant, []⟩ (queryTickQuery 12) := by
  intro ⟨_, _, hfresh, _⟩
  have heq : leakProcess.answer leakEnv (.computeAnalytics none) =
    freshAnswer leakEnv leakProcess.db (.computeAnalytics none) := hfresh
  have hanswer := leakProcess_answer
  rw [heq, leakProcess_freshAnswer] at hanswer
  exact absurd hanswer (by decide)

end Historical
