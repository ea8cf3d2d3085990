import IndustrialSafety.Foresight.Proof.Matching
import IndustrialSafety.KnowledgeGraph.Service

/-!
# The searches return

A catalog that loads is all the searches of the graph need: with it the index of every deck is built,
and no similarity divides by zero, as a distance is a square root.
-/

namespace KnowledgeGraph

open Py Historical ScenarioCatalog

variable {R Uuid : Type} [Field R] [LinearOrder R] [FloorRing R] {env : Env R Uuid} {db : Db R Uuid}

/-- Every file of the catalog loads. -/
def CatalogLoads (env : Env R Uuid) : Prop :=
  ∃ summaries, loadCatalog env.math env.text env.files = .ok summaries

theorem getScenarioSummary_total (hload : CatalogLoads env) (scenarioKey : String) :
    ∃ summary, getScenarioSummary env.math env.text env.files scenarioKey = .ok summary := by
  obtain ⟨summaries, hload⟩ := hload
  exact ⟨_, Except.bind_eq_ok.2 ⟨summaries, hload, rfl⟩⟩

theorem scenarioTitle_eq_ok (hload : CatalogLoads env) (scenarioKey : String) :
    scenarioTitle env scenarioKey = .ok () := by
  obtain ⟨summary, h⟩ := getScenarioSummary_total hload scenarioKey
  exact Except.bind_eq_ok.2 ⟨summary, h, rfl⟩

theorem catalogLoads_of_scenarioTitle {scenarioKey : String}
    (h : scenarioTitle env scenarioKey = .ok ()) : CatalogLoads env := by
  obtain ⟨_, h, -⟩ := Except.bind_eq_ok.1 h
  obtain ⟨summaries, h, -⟩ := Except.bind_eq_ok.1 h
  exact ⟨summaries, h⟩

variable [DecidableEq Uuid]

theorem resolveScenarioKey_total (hload : CatalogLoads env) (zoneId : Uuid) (timestamp : DateTime) :
    ∃ scenarioKey, resolveScenarioKey env zoneId timestamp = .ok scenarioKey := by
  obtain ⟨summaries, hload⟩ := hload
  exact ⟨_, Except.bind_eq_ok.2 ⟨summaries, hload, rfl⟩⟩

theorem catalogLoads_of_resolveScenarioKey {zoneId : Uuid} {timestamp : DateTime}
    {scenarioKey : Option String} (h : resolveScenarioKey env zoneId timestamp = .ok scenarioKey) :
    CatalogLoads env := by
  obtain ⟨summaries, h, -⟩ := Except.bind_eq_ok.1 h
  exact ⟨summaries, h⟩

@[simp] theorem requireOffset_isoformat (zoneId : Uuid) (d : DateTime) :
    requireOffset env zoneId (env.text.isoformat d) = .ok () := by
  rw [requireOffset, env.text.naive_isoformat]
  rfl

theorem indexIncident_total (hload : CatalogLoads env) (incident : HistoricalIncident) :
    ∃ ticks, indexIncident env db incident = .ok ticks := by
  refine Except.bind_total (getScenarioSummary_total hload _) fun summary _ => ?_
  cases summary with
  | none => exact ⟨_, rfl⟩
  | some summary => exact ⟨_, rfl⟩

theorem freshIndex_total (hload : CatalogLoads env) (deck : HistoricalDeck) :
    ∃ indexed, freshIndex env db deck = .ok indexed :=
  Except.bind_total (Except.mapM_total fun incident _ => indexIncident_total hload incident)
    fun _ _ => ⟨_, rfl⟩

theorem incidentTicks_total (hload : CatalogLoads env) (deck : HistoricalDeck)
    (incident : HistoricalIncident) : ∃ ticks, incidentTicks env db deck incident = .ok ticks :=
  Except.bind_total (freshIndex_total hload deck) fun _ _ => ⟨_, rfl⟩

/-- An incident that an index is built for asks for the catalog. -/
theorem catalogLoads_of_incidentTicks {deck : HistoricalDeck} {incident : HistoricalIncident}
    {ticks : List (IndexedTick R Uuid)} (hmem : incident ∈ deck.incidents)
    (h : incidentTicks env db deck incident = .ok ticks) : CatalogLoads env := by
  obtain ⟨indexed, h, -⟩ := Except.bind_eq_ok.1 h
  obtain ⟨tickss, h, -⟩ := Except.bind_eq_ok.1 h
  obtain ⟨_, -, h⟩ := (Except.mapM_eq_ok.1 h).exists_of_mem_left hmem
  obtain ⟨_, h, -⟩ := Except.bind_eq_ok.1 h
  obtain ⟨summaries, h, -⟩ := Except.bind_eq_ok.1 h
  exact ⟨summaries, h⟩

/-! ## Services over fresh indexes -/

/-- A search returns if it does with any cache. -/
theorem searchDecks_total {α : Type} {search : Index R Uuid → Service Exc (IndexCache R Uuid) α}
    (h : (search fun deck => liftM (freshIndex env db deck)).Returns) :
    ∃ a, searchDecks env db search = .ok a := by
  obtain ⟨a, s, ha⟩ := h []
  exact ⟨a, congrArg Prod.fst ha⟩

section
variable {index : Index R Uuid} (hindex : ∀ deck, (index deck).Returns)

include hindex

omit [Field R] [LinearOrder R] [FloorRing R] in
theorem outcomeTier_returns (incident : HistoricalIncident) (zoneId : Uuid) :
    (outcomeTier index incident zoneId).Returns := by
  unfold outcomeTier
  split
  · exact Service.closed_returns.pure _
  · exact Service.closed_returns.bind (hindex _) fun _ => Service.closed_returns.pure _

variable [IsStrictOrderedRing R] (hsqrt : ∀ x, 0 ≤ env.sqrt x)

omit [FloorRing R] [DecidableEq Uuid] hindex in
theorem div_one_add_total {x : R} (hx : 0 ≤ x) : ∃ y, div 1 (1 + x) = .ok y := by
  have : (1 + x) ≠ 0 := by positivity
  exact ⟨_, div_eq_ok.2 ⟨this, rfl⟩⟩

include hsqrt

theorem findSimilarIncidents_returns (hload : CatalogLoads env) (current : RiskAssessment R Uuid)
    (previous : Option (RiskAssessment R Uuid)) (topN : Int) (deckKey : Option String) :
    (findSimilarIncidents index env current previous topN deckKey).Returns := by
  have hscore : ∀ v id deck, (scoreDeck index env.sqrt v id deck).Returns := fun v id deck =>
    Service.closed_returns.bind (hindex deck) fun _ =>
      Service.closed_returns.mapM fun _ _ =>
        Service.closed_returns.bind (Service.returns_lift (div_one_add_total (hsqrt _)))
          fun _ => Service.closed_returns.pure _
  have hmatch : ∀ v tick s, (incidentMatch index env v tick s).Returns := fun v tick s =>
    Service.closed_returns.bind (Service.returns_lift (getScenarioSummary_total hload _)) fun _ =>
      Service.closed_returns.bind (outcomeTier_returns hindex _ _) fun _ =>
        Service.closed_returns.pure _
  refine Service.closed_returns.bind
    (Service.closed_returns.mapM fun deck _ => hscore _ _ deck) fun scored => ?_
  exact Service.closed_returns.mapM fun (tick, s) _ => hmatch _ tick s

end

end KnowledgeGraph

namespace Foresight

open Py Historical KnowledgeGraph

variable {R Uuid : Type} [Field R] [LinearOrder R] [IsStrictOrderedRing R] [DecidableEq Uuid]

theorem operationalMatches_returns {index : Index R Uuid} (hindex : ∀ deck, (index deck).Returns)
    {sqrt : R → R} (hsqrt : ∀ x, 0 ≤ sqrt x) (zoneId : Uuid) (scenarioKey : String)
    {recentAssessments : List (RiskAssessment R Uuid)} (hrecent : recentAssessments ≠ [])
    (windowSize : Int) (deckKey : Option String) (topN : Int) :
    (operationalMatches sqrt index zoneId scenarioKey recentAssessments windowSize deckKey
      topN).Returns := by
  unfold operationalMatches
  rw [if_neg hrecent]
  have hcandidates : (buildCandidateTrajectories index deckKey).Returns :=
    Service.closed_returns.bind (Service.closed_returns.mapM fun deck _ =>
      Service.closed_returns.bind (hindex deck) fun _ => Service.closed_returns.pure _)
      fun _ => Service.closed_returns.pure _
  exact Service.closed_returns.bind hcandidates fun candidates =>
    Service.returns_lift (matchTrajectories_total (fun _ _ => hsqrt _) _ candidates windowSize topN)

end Foresight
