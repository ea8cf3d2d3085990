import IndustrialSafety.Historical.Proof.Coherence
import IndustrialSafety.KnowledgeGraph.Proof.Handlers
import IndustrialSafety.KnowledgeGraph.Proof.Searches
import IndustrialSafety.Services.Runtime

/-!
# Opening a neighbor

When `get_entity` resolves the canonical id of a node (`opens_iff`), and so when every neighbor of a node
can be opened (`neighbors_open_iff`): a reading never can, and an agent or a recommendation may not be.
-/

namespace KnowledgeGraph

open Py Historical

section
variable {R Uuid : Type} [Field R] [LinearOrder R] [FloorRing R] [DecidableEq Uuid]
  {env : Env R Uuid} {db : Db R Uuid}

/-- `get_entity` returns the entity of the kind and the id. -/
def Opens (env : Env R Uuid) (db : Db R Uuid) (entity : GraphEntity EntityKind) : Prop :=
  getEntity env db entity.kind entity.id = .ok (some entity)

/-- What `get_entity` needs to find a node. -/
def Present (env : Env R Uuid) (db : Db R Uuid) : Node Uuid → Prop
  | .plant => True
  | .zone zoneId => (ZoneRepository.get db zoneId).isSome
  | .sensor sensorId => (SensorRepository.get db sensorId).isSome
  | .sensorReading _ => False
  | .worker workerId => (WorkerRepository.get db workerId).isSome
  | .equipment equipmentId => (EquipmentRepository.get db equipmentId).isSome
  | .permit permitId => (PermitRepository.get db permitId).isSome
  | .riskAssessment assessmentId => (RiskAssessmentRepository.get db assessmentId).isSome
  | .triggeredAgent assessmentId agentName => idSeparator ∉ agentName.toList ∧
    ∃ a ∈ RiskAssessmentRepository.get db assessmentId, (agentContribution a agentName).isSome
  | .recommendation assessmentId recommendationKey => idSeparator ∉ recommendationKey.toList ∧
    ∃ a ∈ RiskAssessmentRepository.get db assessmentId,
      recommendationKey ∈ (recommendationTemplates a).map RecommendationTemplate.id
  | .historicalIncident scenarioKey => CatalogLoads env ∧
    ∃ deck ∈ historicalDecks, ∃ incident ∈ deck.incidents, incident.scenarioKey = scenarioKey
  | .forecast zoneId timestamp =>
    ∃ scenarioKey, resolveScenarioKey env zoneId ⟨timestamp, 0⟩ = .ok (some scenarioKey)
  | .lessonLearned _ => True
  | .counterfactual zoneId timestamp =>
    ∃ entity, buildCounterfactual env db zoneId ⟨timestamp, 0⟩ = .ok entity
  | .businessImpact subKind _ _ => idSeparator ∉ subKind.toList

/-! ## Lookups by canonical id -/

theorem map_eq_some_iff_isSome {α β : Type} {found : Option α} {build : α → β} {b : β}
    (h : ∀ x ∈ found, build x = b) :
    (pure (found.map build) : Result (Option β)) = .ok (some b) ↔ found.isSome := by
  cases found with
  | none => exact iff_of_false nofun nofun
  | some x => exact iff_of_true (by rw [Option.map_some, h x rfl]; rfl) rfl

omit [FloorRing R] in
theorem getTriggeredAgent_id (hT : Separated env.text) (i : Uuid) (n : String) :
    getTriggeredAgent env db (triggeredAgentId env.text i n) =
        .ok (some (buildTriggeredAgentEntity env.text i n)) ↔
      idSeparator ∉ n.toList ∧
        ∃ a ∈ RiskAssessmentRepository.get db i, (agentContribution a n).isSome := by
  unfold getTriggeredAgent parseTriggeredAgentId triggeredAgentId
  by_cases hn : idSeparator ∈ n.toList
  · rw [parsePair_joinId_of_mem _ hn]
    exact iff_of_false nofun fun h => h.1 hn
  · rw [parsePair_joinId (hT.uuidStr i) hn]
    simp only [uuid_uuidStr, Except.ok_bind, hn, not_false_iff, true_and]
    cases hget : RiskAssessmentRepository.get db i with
    | none => exact iff_of_false nofun (by simp)
    | some a =>
      obtain rfl := assessmentId_of_get hget
      simp only [Option.mem_some_iff, exists_eq_left']
      exact map_eq_some_iff_isSome fun _ _ => rfl

omit [FloorRing R] in
theorem getRecommendation_id (hT : Separated env.text) (i : Uuid) (k : String) :
    getRecommendation env db (recommendationId env.text i k) =
        .ok (some ⟨.recommendation, recommendationId env.text i k⟩) ↔
      idSeparator ∉ k.toList ∧ ∃ a ∈ RiskAssessmentRepository.get db i,
        k ∈ (recommendationTemplates a).map RecommendationTemplate.id := by
  unfold getRecommendation parseRecommendationId
  by_cases hk : idSeparator ∈ k.toList
  · rw [recommendationId, parsePair_joinId_of_mem _ hk]
    exact iff_of_false (fun h => by cases h) fun h => h.1 hk
  · rw [recommendationId, parsePair_joinId (hT.uuidStr i) hk]
    simp only [uuid_uuidStr, Except.ok_bind, hk, not_false_iff, true_and]
    cases hget : RiskAssessmentRepository.get db i with
    | none => exact iff_of_false (fun h => by cases h) (by simp)
    | some a =>
      obtain rfl := assessmentId_of_get hget
      simp only [Option.mem_some_iff, exists_eq_left']
      refine (map_eq_some_iff_isSome fun template ht => ?_).trans ?_
      · have hid : template.id = k := by simpa using List.find?_some ht
        rw [buildRecommendationEntity, hid]
        rfl
      · rw [List.find?_isSome, List.mem_map]
        simp

omit [Field R] [LinearOrder R] [FloorRing R] [DecidableEq Uuid] in
theorem find?_incident_isSome (k : String) :
    ((historicalDecks.flatMap HistoricalDeck.incidents).find? (·.scenarioKey = k)).isSome ↔
      ∃ deck ∈ historicalDecks, ∃ incident ∈ deck.incidents, incident.scenarioKey = k := by
  simp only [List.find?_isSome, List.mem_flatMap, decide_eq_true_eq]
  constructor
  · rintro ⟨incident, ⟨deck, hdeck, hi⟩, hk⟩
    exact ⟨deck, hdeck, incident, hi, hk⟩
  · rintro ⟨deck, hdeck, incident, hi, hk⟩
    exact ⟨incident, ⟨deck, hdeck, hi⟩, hk⟩

omit [DecidableEq Uuid] in
theorem getHistoricalIncident_id (k : String) :
    getHistoricalIncident env k = .ok (some ⟨.historicalIncident, k⟩) ↔ CatalogLoads env ∧
      ∃ deck ∈ historicalDecks, ∃ incident ∈ deck.incidents, incident.scenarioKey = k := by
  rw [← find?_incident_isSome]
  unfold getHistoricalIncident
  cases hfind : (historicalDecks.flatMap HistoricalDeck.incidents).find? (·.scenarioKey = k) with
  | none => exact iff_of_false nofun nofun
  | some incident =>
    have hkey : incident.scenarioKey = k := by simpa using List.find?_some hfind
    constructor
    · intro h
      obtain ⟨u, htitle, -⟩ := Except.bind_eq_ok.1 h
      exact ⟨catalogLoads_of_scenarioTitle htitle, rfl⟩
    · rintro ⟨hload, -⟩
      refine Except.bind_eq_ok.2 ⟨(), scenarioTitle_eq_ok hload k, ?_⟩
      rw [buildHistoricalIncidentEntity, hkey]
      rfl

theorem getForecast_id (hT : Separated env.text) (z : Uuid) (t : Instant) :
    getForecast env (forecastId env.text z ⟨t, 0⟩) =
        .ok (some (buildForecastEntity env.text z ⟨t, 0⟩)) ↔
      ∃ scenarioKey, resolveScenarioKey env z ⟨t, 0⟩ = .ok (some scenarioKey) := by
  unfold getForecast parseZoneTimestampId forecastId
  rw [parsePair_joinId (hT.uuidStr z) (hT.isoformat ⟨t, 0⟩)]
  simp only [uuid_uuidStr, datetime_isoformat, requireOffset_isoformat, Except.ok_bind]
  cases resolveScenarioKey env z ⟨t, 0⟩ with
  | error e => exact iff_of_false nofun nofun
  | ok scenarioKey =>
    refine (map_eq_some_iff_isSome fun _ _ => rfl).trans ?_
    rw [Option.isSome_iff_exists]
    simp

omit [FloorRing R] in
theorem getCounterfactual_id (hT : Separated env.text) (z : Uuid) (t : Instant) :
    getCounterfactual env db (counterfactualId env.text z ⟨t, 0⟩) =
        .ok (some (buildCounterfactualEntity env.text z ⟨t, 0⟩)) ↔
      ∃ entity, buildCounterfactual env db z ⟨t, 0⟩ = .ok entity := by
  unfold getCounterfactual parseZoneTimestampId counterfactualId
  rw [parsePair_joinId (hT.uuidStr z) (hT.isoformat ⟨t, 0⟩)]
  simp only [uuid_uuidStr, datetime_isoformat, Except.ok_bind]
  cases hbuild : buildCounterfactual env db z ⟨t, 0⟩ with
  | error e => exact iff_of_false nofun nofun
  | ok entity =>
    refine iff_of_true ?_ ⟨_, rfl⟩
    rw [buildCounterfactual_eq hbuild]
    rfl

omit [FloorRing R] [DecidableEq Uuid] in
theorem getBusinessImpact_id (hT : Separated env.text) (kind : String) (z : Uuid) (t : Instant) :
    getBusinessImpact env (businessImpactId env.text kind z ⟨t, 0⟩) =
        .ok (some (buildBusinessImpactEntity env.text kind z ⟨t, 0⟩)) ↔
      idSeparator ∉ kind.toList := by
  unfold getBusinessImpact businessImpactId
  by_cases hk : idSeparator ∈ kind.toList
  · rw [parseBusinessImpactId_joinId_of_mem hk]
    exact iff_of_false nofun fun h => h hk
  · rw [parseBusinessImpactId_joinId hk (hT.uuidStr z) (hT.isoformat ⟨t, 0⟩)]
    simp only [uuid_uuidStr, datetime_isoformat, Except.ok_bind]
    exact iff_of_true rfl hk

omit [Field R] [LinearOrder R] [FloorRing R] [DecidableEq Uuid] in
/-- The kinds of one table, whose entities have the text of the primary key. -/
theorem pure_map_key {α : Type} {found : Option α} {key : α → Uuid} {id : Uuid} {kind : EntityKind}
    (T : Text R Uuid) (h : ∀ x ∈ found, key x = id) :
    (pure (found.map fun x => ⟨kind, T.uuidStr (key x)⟩) : Result (Option (GraphEntity EntityKind))) =
      .ok (some ⟨kind, T.uuidStr id⟩) ↔ found.isSome :=
  map_eq_some_iff_isSome fun x hx => by rw [h x hx]

/-- **A canonical id is resolved** iff its node is present. -/
theorem opens_iff (hT : Separated env.text) (b : Node Uuid) :
    Opens env db (b.entity env.text) ↔ Present env db b := by
  unfold Opens
  cases b with
  | plant => exact iff_of_true rfl trivial
  | sensorReading => exact iff_of_false nofun id
  | zone | sensor | worker | equipment | permit =>
    simp only [Node.entity, getEntity, uuid_uuidStr, Except.ok_bind]
    exact pure_map_key env.text fun _ h => (Table.get?_eq_some.1 h).2
  | riskAssessment =>
    simp only [Node.entity, getEntity, uuid_uuidStr, Except.ok_bind]
    exact pure_map_key env.text fun _ h => assessmentId_of_get h
  | triggeredAgent i n => exact getTriggeredAgent_id hT i n
  | recommendation i k => exact getRecommendation_id hT i k
  | historicalIncident k => exact getHistoricalIncident_id k
  | forecast z t => exact getForecast_id hT z t
  | lessonLearned rule =>
    refine iff_of_true ?_ trivial
    simp [Node.entity, getEntity, lessonsForRules, buildLessonEntity, lessonForRule,
      List.eraseDups_cons]
  | counterfactual z t => exact getCounterfactual_id hT z t
  | businessImpact kind z t => exact getBusinessImpact_id hT kind z t

/-! ## The neighbors of a node -/

/-- The agents of the rules and the recommendations have names without a bar. -/
theorem separator_not_mem_owner {rule name : String} (h : ruleOwningAgent rule = some name) :
    idSeparator ∉ name.toList := by
  unfold ruleOwningAgent at h
  split_ifs at h <;> cases h <;> decide

theorem mem_foldl_addRecommendation {rules : List String} {template : RecommendationTemplate}
    {state : List RecommendationTemplate × Finset String}
    (h : template ∈ (rules.foldl addRecommendation state).1) :
    template ∈ state.1 ∨ template ∈ ruleRecommendations := by
  induction rules generalizing state with
  | nil => exact .inl h
  | cons rule rules ih =>
    rcases ih h with h | h
    · unfold addRecommendation at h
      split at h
      · exact .inl h
      · rename_i added hadded
        split at h
        · exact .inl h
        · rcases List.mem_append.1 h with h | h
          · exact .inl h
          · obtain rfl := List.mem_singleton.1 h
            exact .inr (List.mem_of_find?_eq_some hadded)
    · exact .inr h

theorem separator_not_mem_template {tier : Tier} {rules : List String} {k : String}
    (h : k ∈ (recommendationTemplatesFor tier rules).map RecommendationTemplate.id) :
    idSeparator ∉ k.toList := by
  obtain ⟨template, hmem, rfl⟩ := List.mem_map.1 h
  rcases mem_foldl_addRecommendation hmem with h | h
  · rw [Option.mem_toList] at h
    cases tier <;> cases h <;> decide
  · have hall : ∀ t ∈ ruleRecommendations, idSeparator ∉ t.id.toList := by decide +kernel
    exact hall _ h

/-- What must hold of a node for its neighbors to open: a sensor has no reading; an assessment has no agent
with a bar in its name that contributed risk; the recommendations of a forecast's assessment are those of
the row that has its id. -/
def NeighborsOpen (env : Env R Uuid) (db : Db R Uuid) : Node Uuid → Prop
  | .sensor sensorId => ∀ sensor ∈ SensorRepository.get db sensorId,
    SensorReadingRepository.latest db sensor.zoneId sensor.gasType = none
  | .riskAssessment assessmentId => ∀ a ∈ RiskAssessmentRepository.get db assessmentId,
    ∀ c ∈ a.justification.agentContributions, 0 < c.risk → idSeparator ∉ c.agentName.toList
  | .forecast zoneId timestamp =>
    (∃ scenarioKey, resolveScenarioKey env zoneId ⟨timestamp, 0⟩ = .ok (some scenarioKey)) →
      ∀ a ∈ RiskAssessmentRepository.getByZoneAndTimestamp db zoneId timestamp,
        ∀ row ∈ RiskAssessmentRepository.get db a.assessmentId,
          (recommendationTemplates a).map RecommendationTemplate.id ⊆
            (recommendationTemplates row).map RecommendationTemplate.id
  | _ => True

/-- An assessment that answers has found the catalog, and its readings were accepted. -/
theorem riskAssessment_answered {entityId : String} {i : Uuid} {l : List Found}
    {a : RiskAssessment R Uuid} (hread : env.text.uuid entityId = .ok i)
    (hrun : neighborsOfRiskAssessment env db entityId = .ok l)
    (hget : RiskAssessmentRepository.get db i = some a) : CatalogLoads env ∧
      ∃ entity, buildCounterfactual env db a.zoneId ⟨a.timestamp, 0⟩ = .ok entity := by
  unfold neighborsOfRiskAssessment at hrun
  rw [hread, Except.ok_bind, hget] at hrun
  obtain ⟨found, -, hrun⟩ := Except.bind_eq_ok.1 hrun
  obtain ⟨scenarioKey, hkey, hrun⟩ := Except.bind_eq_ok.1 hrun
  obtain ⟨entity, hentity, -⟩ := Except.bind_eq_ok.1 hrun
  exact ⟨catalogLoads_of_resolveScenarioKey hkey, entity, hentity⟩

theorem present_incident {k : String} {deck : HistoricalDeck} {incident : HistoricalIncident}
    {ticks : List (IndexedTick R Uuid)} (h : TicksOf env db k deck incident ticks) :
    Present env db (.historicalIncident k) := by
  obtain ⟨hdeck, hi, hk, hticks⟩ := h
  exact ⟨catalogLoads_of_incidentTicks hi hticks, deck, hdeck, incident, hi, hk⟩

omit [Field R] [LinearOrder R] [FloorRing R] in
theorem get_isSome_of_mem {a : RiskAssessment R Uuid} (h : a ∈ db.riskAssessments) :
    (RiskAssessmentRepository.get db a.assessmentId).isSome := by
  unfold RiskAssessmentRepository.get RiskAssessmentRepository.getCandidates
  rw [List.isSome_head?, ne_eq, List.filter_eq_nil_iff]
  exact fun hnone => hnone a h (by simp)

omit [Field R] [LinearOrder R] [FloorRing R] in
theorem mem_of_getByZoneAndTimestamp {z : Uuid} {t : Instant} {a : RiskAssessment R Uuid}
    (h : RiskAssessmentRepository.getByZoneAndTimestamp db z t = some a) :
    a ∈ db.riskAssessments ∧ a.zoneId = z ∧ a.timestamp = t := by
  obtain ⟨hmem, hcolumns⟩ := List.mem_filter.1 (List.mem_of_mem_head? h)
  exact ⟨hmem, by simpa using hcolumns⟩

/-- Every fact but three leads to a present node. -/
theorem Shows.present {a b : Node Uuid} {relation : RelationKind} {l : List Found}
    (hrun : getNeighbors env db a.kind (a.id env.text) = .ok l) (h : Shows env db a relation b)
    (hopen : NeighborsOpen env db a) : Present env db b := by
  cases h with
  | plantZone h | zoneZone _ h | workerZone _ _ h | equipmentZone _ _ h | permitZone _ _ h
    | permitWorker _ _ h | assessmentZone _ _ h | agentAssessment h | recommendationAssessment h =>
    exact h
  | zoneSensor h | agentSensor _ _ h =>
    obtain ⟨s, hs, rfl⟩ := List.mem_map.1 h
    exact Option.isSome_iff_exists.2 ⟨s, Table.get?_eq_some.2 ⟨(List.mem_filter.1 hs).1, rfl⟩⟩
  | zoneWorker h =>
    obtain ⟨w, hw, rfl⟩ := List.mem_map.1 h
    exact Option.isSome_iff_exists.2 ⟨w, Table.get?_eq_some.2 ⟨(List.mem_filter.1 hw).1, rfl⟩⟩
  | zoneEquipment h =>
    obtain ⟨e, he, rfl⟩ := List.mem_map.1 h
    exact Option.isSome_iff_exists.2 ⟨e, Table.get?_eq_some.2 ⟨(List.mem_filter.1 he).1, rfl⟩⟩
  | zonePermit h =>
    obtain ⟨p, hp, rfl⟩ := List.mem_map.1 h
    have hp := (List.mem_filter.1 ((Query.mem_orderByDesc _).1 (List.mem_of_mem_take hp))).1
    exact Option.isSome_iff_exists.2 ⟨p, Table.get?_eq_some.2 ⟨hp, rfl⟩⟩
  | workerPermit _ _ h =>
    obtain ⟨p, hp, rfl⟩ := List.mem_map.1 h
    have hp := (List.mem_filter.1 ((Query.mem_orderByDesc _).1
      (List.mem_of_mem_take (List.mem_filter.1 hp).1))).1
    exact Option.isSome_iff_exists.2 ⟨p, Table.get?_eq_some.2 ⟨hp, rfl⟩⟩
  | zoneAssessment h =>
    obtain ⟨row, hrow, rfl⟩ := List.mem_map.1 h
    exact get_isSome_of_mem
      (List.mem_filter.1 ((Query.mem_orderByDesc _).1 (List.mem_of_mem_take hrow))).1
  | sensorReading h hr =>
    rw [hopen _ h] at hr
    cases hr
  | assessmentAgent h hn =>
    obtain ⟨c, hc, rfl⟩ := List.mem_map.1 hn
    obtain ⟨hmem, hrisk⟩ := List.mem_filter.1 hc
    refine ⟨hopen _ h c hmem (by simpa using hrisk), _, h, ?_⟩
    unfold agentContribution
    rw [List.find?_isSome]
    exact ⟨c, hmem, by simp⟩
  | assessmentRecommendation h hk => exact ⟨separator_not_mem_template hk, _, h, hk⟩
  | assessmentIncident h _ _ hex =>
    obtain ⟨incident, hincident⟩ := Option.isSome_iff_exists.1 hex
    obtain ⟨deck, hdeck, hi, hkey⟩ := findIncident_eq_some hincident
    exact ⟨(riskAssessment_answered (uuid_uuidStr env.text _) hrun h).1, deck, hdeck, incident, hi, hkey⟩
  | assessmentForecast _ _ _ hk => exact ⟨_, hk⟩
  | assessmentCounterfactual h hz ht =>
    subst hz ht
    exact (riskAssessment_answered (uuid_uuidStr env.text _) hrun h).2
  | recommendationAgent h hn hc => exact ⟨separator_not_mem_owner hn, _, h, hc⟩
  | incidentLesson => trivial
  | sameOutcome _ _ h =>
    obtain ⟨deck, incident, ticks, hticks, -⟩ := h
    exact present_incident hticks
  | sameTriggeredRule _ _ h | lessonIncident h =>
    obtain ⟨deck, incident, ticks, hticks, -⟩ := h
    exact present_incident hticks
  | forecastAssessment _ h hi | counterfactualAssessment h hi | impactAssessment h hi =>
    exact hi ▸ get_isSome_of_mem (mem_of_getByZoneAndTimestamp h).1
  | forecastRecommendation hk h hi hr =>
    subst hi
    obtain ⟨row, hrow⟩ :=
      Option.isSome_iff_exists.1 (get_isSome_of_mem (mem_of_getByZoneAndTimestamp h).1)
    exact ⟨separator_not_mem_template hr, row, hrow, hopen ⟨_, hk⟩ _ h row hrow hr⟩
  | forecastIncident hk _ _ _ hex =>
    obtain ⟨incident, hincident⟩ := Option.isSome_iff_exists.1 hex
    obtain ⟨deck, hdeck, hi, hkey⟩ := findIncident_eq_some hincident
    exact ⟨catalogLoads_of_resolveScenarioKey hk, deck, hdeck, incident, hi, hkey⟩

/-- Where one of the three leads to a node that is not present. -/
theorem neighborsOpen_of_present {a : Node Uuid}
    (h : ∀ relation b, Shows env db a relation b → Present env db b) : NeighborsOpen env db a := by
  cases a with
  | sensor s =>
    intro sensor hsensor
    cases hlatest : SensorReadingRepository.latest db sensor.zoneId sensor.gasType with
    | none => rfl
    | some reading =>
      exact (h _ (.sensorReading reading.readingId) (.sensorReading hsensor (by rw [hlatest]; rfl))).elim
  | riskAssessment i =>
    intro a ha c hc hrisk
    refine (h _ (.triggeredAgent i c.agentName) (.assessmentAgent ha ?_)).1
    exact List.mem_map_of_mem (List.mem_filter.2 ⟨hc, by simpa using hrisk⟩)
  | forecast z t =>
    rintro ⟨scenarioKey, hkey⟩ a ha row hrow k hk
    obtain ⟨-, row', hrow', hmem⟩ :=
      h _ (.recommendation a.assessmentId k) (.forecastRecommendation hkey ha rfl hk)
    cases hrow.symm.trans hrow'
    exact hmem
  | _ => trivial

/-- **Every neighbor can be opened**: exactly those of the nodes that `NeighborsOpen` holds of. -/
theorem neighbors_open_iff (hT : Separated env.text) {a : Node Uuid} {l : List Found}
    (hrun : getNeighbors env db a.kind (a.id env.text) = .ok l) :
    (∀ p ∈ l, Opens env db p.2) ↔ NeighborsOpen env db a := by
  by_cases ha : a.Readable
  · have hread := readId_id hT ha
    have hanswers := mem_getNeighbors hrun
    constructor
    · intro hall
      refine neighborsOpen_of_present fun relation b hshows => ?_
      exact (opens_iff hT b).1 (hall _ ((hanswers _).2 ⟨a, relation, b, hread, hshows, rfl⟩))
    · intro hopen p hp
      obtain ⟨a', relation, b, hread', hshows, rfl⟩ := (hanswers p).1 hp
      cases hread.symm.trans hread'
      exact (opens_iff hT b).2 (hshows.present hrun hopen)
  · refine iff_of_true (fun p hp => ?_) ?_
    · obtain ⟨a', _, _, hread', -⟩ := (mem_getNeighbors hrun p).1 hp
      exact nomatch (readId_id_of_not ha).symm.trans hread'
    · cases a <;> first | trivial | exact absurd trivial ha

end

theorem plainText_separated : Separated plainText := by
  refine ⟨fun n h => absurd (isDigit_of_mem_repr h) (by decide), fun d h => ?_⟩
  rcases plainIsoformat_chars d _ h with hdigit | hplus
  · exact absurd hdigit (by decide)
  · exact absurd hplus (by decide)

/-- Everything zone 1 shows opens. -/
theorem neighbors_open_zone : ∃ l, getNeighbors leakEnv Runtime.plant .zone "1" = .ok l ∧
    ∀ p ∈ l, Opens leakEnv Runtime.plant p.2 :=
  ⟨_, rfl, (neighbors_open_iff (a := .zone 1) plainText_separated rfl).2 trivial⟩

/-- A sensor with a reading. -/
def readingPlant : Db ℚ ℕ :=
  { Runtime.plant with sensorReadings := Table.empty.upsert ⟨1, 7, 1, "CO", 4, "ppm", 0, "ok"⟩ }

/-- The reading of a sensor is shown but not found. -/
theorem reading_not_found : ∃ l, getNeighbors leakEnv readingPlant .sensor "7" = .ok l ∧
    ∃ p ∈ l, getEntity leakEnv readingPlant p.2.kind p.2.id = .ok none := by
  have hreading : (getNeighbors leakEnv readingPlant .sensor "7").toOption.map
      (·.map Prod.snd) = some [⟨.sensorReading, "1"⟩] := by decide +kernel
  obtain ⟨l, hl, hentities⟩ := Except.toOption_map_eq_some.1 hreading
  have hmem : (⟨.sensorReading, "1"⟩ : GraphEntity EntityKind) ∈ l.map Prod.snd := by
    rw [hentities]
    exact .head _
  obtain ⟨p, hp, heq⟩ := List.mem_map.1 hmem
  exact ⟨l, hl, p, hp, by rw [heq]; rfl⟩

end KnowledgeGraph
