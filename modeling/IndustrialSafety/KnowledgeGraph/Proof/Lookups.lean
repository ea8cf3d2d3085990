import IndustrialSafety.KnowledgeGraph.Proof.EdgeKeys
import IndustrialSafety.KnowledgeGraph.Router

/-!
# Lookups of any text

When `get_entity` and `get_neighbors` return, for an id that may be any text (`lookups_return_iff`). A
composite id with the wrong number of parts is answered with nothing, but a part that is no UUID or no time
raises, which the endpoint answers as an internal error.
-/

namespace KnowledgeGraph

open Py Historical ScenarioCatalog

section
variable {R Uuid : Type} {T : Text R Uuid}

/-! ## Texts that are read -/

/-- The texts of a tick are read as a zone and a time that have a property. -/
def ReadsTick (T : Text R Uuid) (tick : String × String) (P : Uuid → DateTime → Prop) : Prop :=
  ∃ z t, T.uuidOfStr tick.1 = some z ∧ T.fromisoformat tick.2 = some t ∧ P z t

theorem uuid_bind_total_iff {α : Type} {s : String} {f : Uuid → Result α} :
    (∃ a, (T.uuid s >>= f) = .ok a) ↔ ∃ u, T.uuidOfStr s = some u ∧ ∃ a, f u = .ok a := by
  simp only [Except.bind_total_iff, T.uuid_eq_ok]

theorem readsTick_congr {tick : String × String} {P Q : Uuid → DateTime → Prop}
    (h : ∀ z t, P z t ↔ Q z t) : ReadsTick T tick P ↔ ReadsTick T tick Q :=
  exists_congr fun z => exists_congr fun t => and_congr_right' (and_congr_right' (h z t))

theorem tick_bind_total_iff {α : Type} {zoneIdStr timestampStr : String}
    {f : Uuid → DateTime → Result α} :
    (∃ a, (do let z ← T.uuid zoneIdStr; let t ← T.datetime timestampStr; f z t) = .ok a) ↔
      ReadsTick T (zoneIdStr, timestampStr) fun z t => ∃ a, f z t = .ok a := by
  simp only [uuid_bind_total_iff, Except.bind_total_iff, T.datetime_eq_ok, ReadsTick]
  exact ⟨fun ⟨z, hz, t, ht, h⟩ => ⟨z, t, hz, ht, h⟩, fun ⟨z, t, hz, ht, h⟩ => ⟨z, hz, t, ht, h⟩⟩

/-- A row lookup returns iff its id is the text of a UUID. -/
theorem uuid_lookup_iff {α : Type} {s : String} {f : Uuid → Result α} (hf : ∀ u, ∃ a, f u = .ok a) :
    (∃ a, (T.uuid s >>= f) = .ok a) ↔ (T.uuidOfStr s).isSome := by
  rw [uuid_bind_total_iff, Option.isSome_iff_exists]
  exact exists_congr fun u => and_iff_left (hf u)

end

section
variable {R Uuid : Type} [Field R] [LinearOrder R] [FloorRing R] [DecidableEq Uuid]
  {env : Env R Uuid} {db : Db R Uuid}

/-! ## What a lookup needs -/

/-- The time can be compared with the bounds of the scenarios of the zone. -/
def Comparable (env : Env R Uuid) (z : Uuid) (timestampStr : String) : Prop :=
  env.text.naive timestampStr = true → ∀ summaries,
    loadCatalog env.math env.text env.files = .ok summaries → ∀ s ∈ summaries, z ∉ s.zoneIds

/-- The incident is one of a deck. -/
def Catalogued (scenarioKey : String) : Prop :=
  ∃ deck ∈ historicalDecks, ∃ incident ∈ deck.incidents, incident.scenarioKey = scenarioKey

/-- The latest readings of a zone up to a time pass the checks of the comparator. -/
def ReadingsValid (env : Env R Uuid) (db : Db R Uuid) (z : Uuid) (t : Instant) : Prop :=
  ∀ r ∈ ContextBuilders.buildCounterfactualReadings env.text db z
    ((SensorRepository.listByZone db z).map Sensor.gasType) (some t), r.Valid

/-- What `get_entity` needs to return. -/
def EntityReturns (env : Env R Uuid) (db : Db R Uuid) (kind : EntityKind) (entityId : String) : Prop :=
  match kind with
  | .plant | .sensorReading | .lessonLearned => True
  | .zone | .sensor | .worker | .equipment | .permit | .riskAssessment =>
    (env.text.uuidOfStr entityId).isSome
  | .triggeredAgent => ∀ parts ∈ parseTriggeredAgentId entityId, (env.text.uuidOfStr parts.1).isSome
  | .recommendation => ∀ parts ∈ parseRecommendationId entityId, (env.text.uuidOfStr parts.1).isSome
  | .historicalIncident => Catalogued entityId → CatalogLoads env
  | .forecast => ∀ tick ∈ parseZoneTimestampId entityId, ReadsTick env.text tick fun z _ =>
      CatalogLoads env ∧ Comparable env z tick.2
  | .counterfactual => ∀ tick ∈ parseZoneTimestampId entityId, ReadsTick env.text tick fun z t =>
      ReadingsValid env db z t.instant
  | .businessImpact => ∀ parts ∈ parseBusinessImpactId entityId,
      ReadsTick env.text parts.2 fun _ _ => True

/-- What `get_neighbors` needs to return. -/
def NeighborsReturn (env : Env R Uuid) (db : Db R Uuid) (kind : EntityKind) (entityId : String) :
    Prop :=
  match kind with
  | .riskAssessment => ∃ i, env.text.uuidOfStr entityId = some i ∧
      ∀ a ∈ RiskAssessmentRepository.get db i, Accepted env db a
  | .lessonLearned => CatalogLoads env
  | .counterfactual => ∀ tick ∈ parseZoneTimestampId entityId, ReadsTick env.text tick fun _ _ => True
  | kind => EntityReturns env db kind entityId

theorem requireOffset_total_iff (hload : CatalogLoads env) {z : Uuid} {timestampStr : String} :
    (∃ u, requireOffset env z timestampStr = .ok u) ↔ Comparable env z timestampStr := by
  obtain ⟨summaries, hload⟩ := hload
  unfold requireOffset Comparable
  rw [hload]
  cases env.text.naive timestampStr with
  | false => simp
  | true => simp

/-! ## Entities -/

theorem resolve_total_iff {z : Uuid} {t : DateTime} {timestampStr : String} {α : Type}
    {f : Option String → Result α} (hf : CatalogLoads env → ∀ k, ∃ a, f k = .ok a) :
    (∃ a, (do requireOffset env z timestampStr; f (← resolveScenarioKey env z t)) = .ok a) ↔
      CatalogLoads env ∧ Comparable env z timestampStr := by
  constructor
  · rintro ⟨a, h⟩
    obtain ⟨u, hoffset, h⟩ := Except.bind_eq_ok.1 h
    obtain ⟨key, hkey, -⟩ := Except.bind_eq_ok.1 h
    have hload := catalogLoads_of_resolveScenarioKey hkey
    exact ⟨hload, (requireOffset_total_iff hload).1 ⟨u, hoffset⟩⟩
  · rintro ⟨hload, hcomparable⟩
    refine Except.bind_total ((requireOffset_total_iff hload).2 hcomparable) fun _ _ => ?_
    exact Except.bind_total (resolveScenarioKey_total hload z t) fun key _ => hf hload key

omit [DecidableEq Uuid] in
theorem getHistoricalIncident_total_iff {k : String} :
    (∃ found, getHistoricalIncident env k = .ok found) ↔ (Catalogued k → CatalogLoads env) := by
  unfold Catalogued
  rw [← find?_incident_isSome]
  unfold getHistoricalIncident
  cases (historicalDecks.flatMap HistoricalDeck.incidents).find? (·.scenarioKey = k) with
  | none => exact iff_of_true ⟨_, rfl⟩ nofun
  | some incident =>
    constructor
    · rintro ⟨_, h⟩ -
      obtain ⟨_, htitle, -⟩ := Except.bind_eq_ok.1 h
      exact catalogLoads_of_scenarioTitle htitle
    · intro h
      exact Except.bind_total ⟨_, scenarioTitle_eq_ok (h rfl) k⟩ fun _ _ => ⟨_, rfl⟩

/-- **`get_entity` returns** iff the parts of the id are read, the catalog loads where it is asked for, and
the comparator accepts the readings of a counterfactual. -/
theorem getEntity_total_iff (kind : EntityKind) (entityId : String) :
    (∃ found, getEntity env db kind entityId = .ok found) ↔ EntityReturns env db kind entityId := by
  cases kind with
  | plant | sensorReading | lessonLearned => exact iff_of_true ⟨_, rfl⟩ trivial
  | zone | sensor | worker | equipment | permit | riskAssessment =>
    exact uuid_lookup_iff fun _ => ⟨_, rfl⟩
  | triggeredAgent =>
    simp only [getEntity, getTriggeredAgent, EntityReturns]
    cases parseTriggeredAgentId entityId with
    | none => exact iff_of_true ⟨_, rfl⟩ fun _ h => by cases h
    | some parts =>
      simp only [Option.mem_some_iff, forall_eq']
      refine uuid_lookup_iff fun i => ?_
      cases RiskAssessmentRepository.get db i <;> exact ⟨_, rfl⟩
  | recommendation =>
    simp only [getEntity, getRecommendation, EntityReturns]
    cases parseRecommendationId entityId with
    | none => exact iff_of_true ⟨_, rfl⟩ fun _ h => by cases h
    | some parts =>
      simp only [Option.mem_some_iff, forall_eq']
      refine uuid_lookup_iff fun i => ?_
      cases RiskAssessmentRepository.get db i <;> exact ⟨_, rfl⟩
  | historicalIncident => exact getHistoricalIncident_total_iff
  | forecast =>
    simp only [getEntity, getForecast, EntityReturns]
    cases parseZoneTimestampId entityId with
    | none => exact iff_of_true ⟨_, rfl⟩ fun _ h => by cases h
    | some tick =>
      simp only [Option.mem_some_iff, forall_eq']
      refine tick_bind_total_iff.trans (readsTick_congr fun z t => ?_)
      exact resolve_total_iff fun _ _ => ⟨_, rfl⟩
  | counterfactual =>
    simp only [getEntity, getCounterfactual, EntityReturns]
    cases parseZoneTimestampId entityId with
    | none => exact iff_of_true ⟨_, rfl⟩ fun _ h => by cases h
    | some tick =>
      simp only [Option.mem_some_iff, forall_eq']
      refine tick_bind_total_iff.trans (readsTick_congr fun z t => ?_)
      rw [Except.bind_total_iff, ReadingsValid, ← buildCounterfactual_total_iff]
      exact exists_congr fun entity => and_iff_left ⟨_, rfl⟩
  | businessImpact =>
    simp only [getEntity, getBusinessImpact, EntityReturns]
    cases parseBusinessImpactId entityId with
    | none => exact iff_of_true ⟨_, rfl⟩ fun _ h => by cases h
    | some parts =>
      simp only [Option.mem_some_iff, forall_eq']
      refine tick_bind_total_iff.trans (readsTick_congr fun z t => ?_)
      exact iff_of_true ⟨_, rfl⟩ trivial

/-- An entity that is found has the kind that was asked for. -/
theorem getEntity_kind {kind : EntityKind} {entityId : String} {entity : GraphEntity EntityKind}
    (h : getEntity env db kind entityId = .ok (some entity)) : entity.kind = kind := by
  cases kind with
  | plant =>
    cases h
    rfl
  | sensorReading => cases h
  | zone | sensor | worker | equipment | permit | riskAssessment =>
    obtain ⟨_, -, h⟩ := Except.bind_eq_ok.1 h
    obtain ⟨_, -, rfl⟩ := map_named h
    rfl
  | lessonLearned =>
    obtain ⟨_, -, rfl⟩ := map_named h
    rfl
  | triggeredAgent =>
    simp only [getEntity, getTriggeredAgent] at h
    split at h
    · cases h
    obtain ⟨_, -, h⟩ := Except.bind_eq_ok.1 h
    split at h
    · cases h
    obtain ⟨_, -, rfl⟩ := map_named h
    rfl
  | recommendation =>
    simp only [getEntity, getRecommendation] at h
    split at h
    · cases h
    obtain ⟨_, -, h⟩ := Except.bind_eq_ok.1 h
    split at h
    · cases h
    obtain ⟨_, -, rfl⟩ := map_named h
    rfl
  | historicalIncident =>
    simp only [getEntity, getHistoricalIncident] at h
    split at h
    · cases h
    obtain ⟨_, -, h⟩ := Except.bind_eq_ok.1 h
    cases h
    rfl
  | forecast =>
    simp only [getEntity, getForecast] at h
    split at h
    · cases h
    obtain ⟨_, -, h⟩ := Except.bind_eq_ok.1 h
    obtain ⟨_, -, h⟩ := Except.bind_eq_ok.1 h
    obtain ⟨_, -, h⟩ := Except.bind_eq_ok.1 h
    obtain ⟨_, -, h⟩ := Except.bind_eq_ok.1 h
    obtain ⟨_, -, rfl⟩ := map_named h
    rfl
  | counterfactual =>
    simp only [getEntity, getCounterfactual] at h
    split at h
    · cases h
    obtain ⟨_, -, h⟩ := Except.bind_eq_ok.1 h
    obtain ⟨_, -, h⟩ := Except.bind_eq_ok.1 h
    obtain ⟨_, hbuild, h⟩ := Except.bind_eq_ok.1 h
    cases h
    rw [buildCounterfactual_eq hbuild]
    rfl
  | businessImpact =>
    simp only [getEntity, getBusinessImpact] at h
    split at h
    · cases h
    obtain ⟨_, -, h⟩ := Except.bind_eq_ok.1 h
    obtain ⟨_, -, h⟩ := Except.bind_eq_ok.1 h
    cases h
    rfl

/-! ## Neighbors -/

theorem neighborsOfHistoricalIncident_total_iff {k : String} :
    (∃ l, neighborsOfHistoricalIncident env db k = .ok l) ↔ (Catalogued k → CatalogLoads env) := by
  constructor
  · rintro ⟨l, h⟩ ⟨deck, hdeck, incident, hincident, rfl⟩
    unfold neighborsOfHistoricalIncident at h
    split at h
    · rename_i hnone
      have hany := List.find?_eq_none.1 hnone deck hdeck
      exact absurd (List.any_eq_true.2 ⟨incident, hincident, by simp⟩) hany
    · rename_i deck' hdeck'
      split at h
      · rename_i hnone
        have hany := List.find?_some hdeck'
        obtain ⟨incident', hincident', hkey⟩ := List.any_eq_true.1 hany
        exact absurd hkey (List.find?_eq_none.1 hnone incident' hincident')
      · rename_i hincident'
        obtain ⟨ticks, hticks, -⟩ := Except.bind_eq_ok.1 h
        exact catalogLoads_of_incidentTicks (List.mem_of_find?_eq_some hincident') hticks
  · intro h
    by_cases hk : Catalogued k
    · exact returns_historicalIncident (h hk) k
    · refine ⟨[], ?_⟩
      unfold neighborsOfHistoricalIncident
      split
      · rfl
      · rename_i deck hdeck
        have hany := List.find?_some hdeck
        obtain ⟨incident, hincident, hkey⟩ := List.any_eq_true.1 hany
        exact absurd ⟨deck, List.mem_of_find?_eq_some hdeck, incident, hincident,
          of_decide_eq_true hkey⟩ hk

theorem neighborsOfLesson_total_iff {rule : String} :
    (∃ l, neighborsOfLesson env db rule = .ok l) ↔ CatalogLoads env := by
  refine ⟨fun ⟨l, h⟩ => ?_, fun hload => returns_lessonLearned hload rule⟩
  obtain ⟨deck, hdeck, incident, hincident⟩ :
      ∃ deck ∈ historicalDecks, ∃ incident, incident ∈ deck.incidents :=
    ⟨_, .head _, _, .head _⟩
  obtain ⟨found, hscan, -⟩ := Except.bind_eq_ok.1 h
  obtain ⟨_, -, hdeckScan⟩ := (Except.mapM_eq_ok.1 hscan).exists_of_mem_left hdeck
  obtain ⟨_, -, hl⟩ := (Except.mapM_eq_ok.1 hdeckScan).exists_of_mem_left hincident
  obtain ⟨ticks, hticks, -⟩ := Except.bind_eq_ok.1 hl
  exact catalogLoads_of_incidentTicks hincident hticks

omit [FloorRing R] in
theorem assessmentOfTick_total_iff {kind : EntityKind} {entityId zoneIdStr timestampStr : String}
    {relation : RelationKind} :
    (∃ l, assessmentOfTick env db kind entityId relation zoneIdStr timestampStr = .ok l) ↔
      ReadsTick env.text (zoneIdStr, timestampStr) fun _ _ => True :=
  tick_bind_total_iff.trans (readsTick_congr fun _ _ => iff_of_true ⟨_, rfl⟩ trivial)

section
variable [IsStrictOrderedRing R] (hsqrt : ∀ x, 0 ≤ env.sqrt x)

include hsqrt

theorem neighborsOfForecast_total_iff {entityId : String} :
    (∃ l, neighborsOfForecast env db entityId = .ok l) ↔
      ∀ tick ∈ parseZoneTimestampId entityId, ReadsTick env.text tick fun z _ =>
        CatalogLoads env ∧ Comparable env z tick.2 := by
  cases hparse : parseZoneTimestampId entityId with
  | none => exact iff_of_true ⟨[], by rw [neighborsOfForecast, hparse]; rfl⟩ nofun
  | some tick =>
    simp only [Option.mem_some_iff, forall_eq']
    constructor
    · rintro ⟨l, h⟩
      unfold neighborsOfForecast at h
      rw [hparse] at h
      obtain ⟨z, hz, h⟩ := Except.bind_eq_ok.1 h
      obtain ⟨t, ht, h⟩ := Except.bind_eq_ok.1 h
      obtain ⟨u, hoffset, h⟩ := Except.bind_eq_ok.1 h
      obtain ⟨key, hkey, -⟩ := Except.bind_eq_ok.1 h
      have hload := catalogLoads_of_resolveScenarioKey hkey
      exact ⟨z, t, env.text.uuid_eq_ok.1 hz, env.text.datetime_eq_ok.1 ht, hload,
        (requireOffset_total_iff hload).1 ⟨u, hoffset⟩⟩
    · rintro ⟨z, t, hz, ht, hload, hcomparable⟩
      obtain ⟨_, hoffset⟩ := (requireOffset_total_iff hload).2 hcomparable
      exact neighborsOfForecast_total hsqrt hload hparse (env.text.uuid_eq_ok.2 hz)
        (env.text.datetime_eq_ok.2 ht) hoffset

theorem neighborsOfRiskAssessment_returns_iff {entityId : String} :
    (∃ l, neighborsOfRiskAssessment env db entityId = .ok l) ↔
      ∃ i, env.text.uuidOfStr entityId = some i ∧
        ∀ a ∈ RiskAssessmentRepository.get db i, Accepted env db a := by
  constructor
  · rintro ⟨l, h⟩
    obtain ⟨i, hi, -⟩ := Except.bind_eq_ok.1 h
    exact ⟨i, env.text.uuid_eq_ok.1 hi, fun a hget =>
      (neighborsOfRiskAssessment_total_iff hsqrt hi hget).1 ⟨l, h⟩⟩
  · rintro ⟨i, hi, haccepted⟩
    have hread := env.text.uuid_eq_ok.2 hi
    cases hget : RiskAssessmentRepository.get db i with
    | none =>
      refine ⟨[], ?_⟩
      unfold neighborsOfRiskAssessment
      rw [hread, Except.ok_bind, hget]
      rfl
    | some a => exact (neighborsOfRiskAssessment_total_iff hsqrt hread hget).2 (haccepted a hget)

/-- **`get_neighbors` returns** iff the parts of the id are read, the catalog loads where it is asked for,
and the comparator accepts the readings of an assessment. -/
theorem getNeighbors_total_iff (kind : EntityKind) (entityId : String) :
    (∃ l, getNeighbors env db kind entityId = .ok l) ↔ NeighborsReturn env db kind entityId := by
  cases kind with
  | plant | sensorReading => exact iff_of_true ⟨_, rfl⟩ trivial
  | zone => exact uuid_lookup_iff fun _ => ⟨_, rfl⟩
  | sensor =>
    refine uuid_lookup_iff fun s => ?_
    cases SensorRepository.get db s <;> exact ⟨_, rfl⟩
  | worker =>
    refine uuid_lookup_iff fun w => ?_
    cases WorkerRepository.get db w with
    | none => exact ⟨_, rfl⟩
    | some worker =>
      dsimp only
      cases worker.currentZoneId <;> exact ⟨_, rfl⟩
  | equipment =>
    refine uuid_lookup_iff fun e => ?_
    cases EquipmentRepository.get db e <;> exact ⟨_, rfl⟩
  | permit =>
    refine uuid_lookup_iff fun p => ?_
    cases PermitRepository.get db p <;> exact ⟨_, rfl⟩
  | riskAssessment => exact neighborsOfRiskAssessment_returns_iff hsqrt
  | triggeredAgent =>
    simp only [getNeighbors, neighborsOfTriggeredAgent, NeighborsReturn, EntityReturns]
    cases parseTriggeredAgentId entityId with
    | none => exact iff_of_true ⟨_, rfl⟩ fun _ h => by cases h
    | some parts =>
      simp only [Option.mem_some_iff, forall_eq']
      refine uuid_lookup_iff fun i => ?_
      cases RiskAssessmentRepository.get db i <;> exact ⟨_, rfl⟩
  | recommendation =>
    simp only [getNeighbors, neighborsOfRecommendation, NeighborsReturn, EntityReturns]
    cases parseRecommendationId entityId with
    | none => exact iff_of_true ⟨_, rfl⟩ fun _ h => by cases h
    | some parts =>
      simp only [Option.mem_some_iff, forall_eq']
      refine uuid_lookup_iff fun i => ?_
      cases RiskAssessmentRepository.get db i <;> exact ⟨_, rfl⟩
  | historicalIncident => exact neighborsOfHistoricalIncident_total_iff
  | forecast => exact neighborsOfForecast_total_iff hsqrt
  | lessonLearned => exact neighborsOfLesson_total_iff
  | counterfactual =>
    simp only [getNeighbors, neighborsOfCounterfactual, NeighborsReturn]
    cases parseZoneTimestampId entityId with
    | none => exact iff_of_true ⟨_, rfl⟩ fun _ h => by cases h
    | some tick =>
      simp only [Option.mem_some_iff, forall_eq']
      exact assessmentOfTick_total_iff
  | businessImpact =>
    simp only [getNeighbors, neighborsOfBusinessImpact, NeighborsReturn, EntityReturns]
    cases parseBusinessImpactId entityId with
    | none => exact iff_of_true ⟨_, rfl⟩ fun _ h => by cases h
    | some parts =>
      simp only [Option.mem_some_iff, forall_eq']
      exact assessmentOfTick_total_iff

end

/-! ## The endpoints -/

theorem requireValidKind_value (kind : EntityKind) : Router.requireValidKind kind.value = .ok kind := by
  cases kind <;> rfl

theorem entityNotFound_ne (kind entityId : String) :
    Router.entityNotFound kind entityId ≠ Router.internalError := by
  simp [Router.entityNotFound, Router.internalError]

theorem router_getEntity_iff (kind : EntityKind) (entityId : String) :
    Router.getEntity env db kind.value entityId = .error Router.internalError ↔
      ¬EntityReturns env db kind entityId := by
  rw [← getEntity_total_iff]
  unfold Router.getEntity
  rw [requireValidKind_value, Except.ok_bind]
  cases getEntity env db kind entityId with
  | error e => exact iff_of_true rfl nofun
  | ok found =>
    refine iff_of_false (fun h => ?_) (not_not.2 ⟨found, rfl⟩)
    cases found with
    | none => exact entityNotFound_ne kind.value entityId (Except.error.inj h)
    | some entity => cases h

/-- **Lookups of any text.** `get_entity` returns nothing or an entity of the kind that was asked for, and
`get_neighbors` a list, iff the parts of the id that are read as UUIDs and times are such, the catalog
loads where it is asked for, and the comparator accepts the readings it is given. Otherwise they raise,
and the endpoint answers with an internal error. -/
theorem lookups_return_iff [IsStrictOrderedRing R] (hsqrt : ∀ x, 0 ≤ env.sqrt x) (kind : EntityKind)
    (entityId : String) :
    ((∃ found, getEntity env db kind entityId = .ok found) ↔ EntityReturns env db kind entityId) ∧
    (∀ entity, getEntity env db kind entityId = .ok (some entity) → entity.kind = kind) ∧
    ((∃ l, getNeighbors env db kind entityId = .ok l) ↔ NeighborsReturn env db kind entityId) ∧
    (Router.getEntity env db kind.value entityId = .error Router.internalError ↔
      ¬EntityReturns env db kind entityId) :=
  ⟨getEntity_total_iff kind entityId, fun _ h => getEntity_kind h,
    getNeighbors_total_iff hsqrt kind entityId, router_getEntity_iff kind entityId⟩

end

/-! ## An id that is no UUID -/

/-- Text forms that are read back only from numerals. -/
def strictText : Text ℚ ℕ :=
  { plainText with
    uuidOfStr := fun s => if s.toList.all (·.isDigit) then plainText.uuidOfStr s else none
    fromisoformat := fun s =>
      if s.toList.all fun c => c.isDigit ∨ c = '+' then plainText.fromisoformat s else none
    uuidOfStr_uuidStr := fun n =>
      (if_pos (List.all_eq_true.2 fun _ hc => isDigit_of_mem_repr hc)).trans (plainText.uuidOfStr_uuidStr n)
    fromisoformat_isoformat := fun d =>
      (if_pos (List.all_eq_true.2 fun c hc => decide_eq_true (plainIsoformat_chars d c hc))).trans
        (plainText.fromisoformat_isoformat d) }

def strictEnv : Env ℚ ℕ := { rootEnv with text := strictText }

theorem strictEnv_sqrt (x : ℚ) : 0 ≤ strictEnv.sqrt x :=
  div_nonneg (Nat.cast_nonneg _) (Nat.cast_nonneg _)

/-- Zone 1 is found, and its neighbors are listed. -/
theorem zone_lookup_returns :
    (∃ found, getEntity strictEnv Runtime.plant .zone "1" = .ok found) ∧
      ∃ l, getNeighbors strictEnv Runtime.plant .zone "1" = .ok l := by
  obtain ⟨hentity, -, hneighbors, -⟩ :=
    @lookups_return_iff ℚ ℕ _ _ _ _ strictEnv Runtime.plant _ strictEnv_sqrt .zone "1"
  have hread : (strictEnv.text.uuidOfStr "1").isSome := by decide
  exact ⟨hentity.2 hread, hneighbors.2 hread⟩

/-- A zone id that is no UUID raises, and so does the tick of a composite id with the right number of
parts. -/
theorem ill_formed_raises :
    (∃ e, getEntity strictEnv Runtime.plant .zone "x" = .error e) ∧
    (∃ e, getNeighbors strictEnv Runtime.plant .zone "x" = .error e) ∧
    (∃ e, getEntity strictEnv Runtime.plant .counterfactual "1|noon" = .error e) ∧
    Router.getEntity strictEnv Runtime.plant "zone" "x" = .error Router.internalError := by
  refine ⟨⟨_, rfl⟩, ⟨_, rfl⟩, ⟨_, rfl⟩, rfl⟩

end KnowledgeGraph
