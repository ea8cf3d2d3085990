import IndustrialSafety.Foresight.Matching
import IndustrialSafety.Historical.Analytics
import IndustrialSafety.KnowledgeGraph.Entities
import IndustrialSafety.KnowledgeGraph.RecommendationText
import IndustrialSafety.KnowledgeGraph.Traversal
import IndustrialSafety.Services.ContextBuilders

/-!
# The graph of a database

`get_entity` and `get_neighbors` of `src/knowledge_graph/service.py`, with the builders of
`builders.py`. The index of a deck is the one its database gives now; a timestamp read from the database
is in UTC, and a `justification` is a record. `summary.title` is only a label: what remains of
`get_scenario_summary` is what it may raise.
-/

namespace KnowledgeGraph

open Py Historical ScenarioCatalog

/-- A found neighbor: the edge and the entity it leads to. -/
abbrev Found := GraphEdge EntityKind × GraphEntity EntityKind

/-- An edge from the queried node to a neighbor. -/
def link (kind : EntityKind) (entityId : String) (relation : RelationKind)
    (entity : GraphEntity EntityKind) : Found :=
  (⟨kind, entityId, relation, entity.kind, entity.id⟩, entity)

/-! ## Builders -/

section
variable {R Uuid : Type} (T : Text R Uuid)

def buildPlantEntity : GraphEntity EntityKind := ⟨.plant, plantId⟩

def buildZoneEntity (zone : Zone R Uuid) : GraphEntity EntityKind := ⟨.zone, T.uuidStr zone.zoneId⟩

def buildSensorEntity (sensor : Sensor R Uuid) : GraphEntity EntityKind :=
  ⟨.sensor, T.uuidStr sensor.sensorId⟩

def buildSensorReadingEntity (reading : SensorReading R Uuid) : GraphEntity EntityKind :=
  ⟨.sensorReading, T.uuidStr reading.readingId⟩

def buildWorkerEntity (worker : Worker Uuid) : GraphEntity EntityKind :=
  ⟨.worker, T.uuidStr worker.workerId⟩

def buildEquipmentEntity (equipment : Equipment Uuid) : GraphEntity EntityKind :=
  ⟨.equipment, T.uuidStr equipment.equipmentId⟩

def buildPermitEntity (permit : Permit R Uuid) : GraphEntity EntityKind :=
  ⟨.permit, T.uuidStr permit.permitId⟩

def buildRiskAssessmentEntity (assessment : RiskAssessment R Uuid) : GraphEntity EntityKind :=
  ⟨.riskAssessment, T.uuidStr assessment.assessmentId⟩

def buildTriggeredAgentEntity (assessmentId : Uuid) (agentName : String) : GraphEntity EntityKind :=
  ⟨.triggeredAgent, triggeredAgentId T assessmentId agentName⟩

def buildRecommendationEntity (assessmentId : Uuid) (template : RecommendationTemplate) :
    GraphEntity EntityKind :=
  ⟨.recommendation, recommendationId T assessmentId template.id⟩

def buildHistoricalIncidentEntity (incident : HistoricalIncident) : GraphEntity EntityKind :=
  ⟨.historicalIncident, incident.scenarioKey⟩

def buildForecastEntity (zoneId : Uuid) (timestamp : DateTime) : GraphEntity EntityKind :=
  ⟨.forecast, forecastId T zoneId timestamp⟩

def buildLessonEntity (lesson : Lesson) : GraphEntity EntityKind := ⟨.lessonLearned, lesson.rule⟩

def buildCounterfactualEntity (zoneId : Uuid) (timestamp : DateTime) : GraphEntity EntityKind :=
  ⟨.counterfactual, counterfactualId T zoneId timestamp⟩

def buildBusinessImpactEntity (subKind : String) (zoneId : Uuid) (timestamp : DateTime) :
    GraphEntity EntityKind :=
  ⟨.businessImpact, businessImpactId T subKind zoneId timestamp⟩

end

/-! ## Rules and incidents -/

/-- `_GAS_RISK_RULES`. -/
def gasRiskRules : List String := ["missing_data_fail_safe", "stale_data_fail_safe",
  "saturating_threshold_function", "insufficient_history"]

/-- `_RECENT_ASSESSMENT_LIMIT`. -/
def recentAssessmentLimit : Nat := 5

def ruleOwningAgent (rule : String) : Option String :=
  if rule ∈ gasRiskRules then some "gas_risk"
  else if rule ∈ equipmentRules then some "equipment_status"
  else if rule ∈ workerRules then some "worker_exposure"
  else if rule ∈ permitRules then some "permit_intelligence"
  else none

section
variable {R Uuid : Type}

/-- `_rules_fired`. -/
def rulesFired (assessment : RiskAssessment R Uuid) : List String :=
  assessment.justification.rulesFired

/-- `_agent_contributions(assessment).get(agent_name)`. -/
def agentContribution (assessment : RiskAssessment R Uuid) (agentName : String) :
    Option (Justification.Contribution R) :=
  assessment.justification.agentContributions.find? (·.agentName = agentName)

/-- The recommendations of an assessment. -/
def recommendationTemplates (assessment : RiskAssessment R Uuid) : List RecommendationTemplate :=
  recommendationTemplatesFor assessment.tier (rulesFired assessment)

end

/-- The incident with a scenario key, in the first deck that has one. -/
def findIncident (scenarioKey : String) : Option HistoricalIncident := do
  let deck ← historicalDecks.find? fun deck => deck.incidents.any (·.scenarioKey = scenarioKey)
  deck.incidents.find? (·.scenarioKey = scenarioKey)

section
variable {R Uuid : Type} [Field R] [LinearOrder R] [FloorRing R] [DecidableEq Uuid]
  (env : Env R Uuid) (db : Db R Uuid)

omit [DecidableEq Uuid] in
/-- The title of a scenario is a label; this is what asking for it may raise. -/
def scenarioTitle (scenarioKey : String) : Result Unit := do
  let _ ← getScenarioSummary env.math env.text env.files scenarioKey

/-- The first scenario of the catalog whose zones and time window have the tick. -/
def resolveScenarioKey (zoneId : Uuid) (timestamp : DateTime) : Result (Option String) := do
  let summaries ← loadCatalog env.math env.text env.files
  pure ((summaries.find? fun summary => zoneId ∈ summary.zoneIds ∧
    summary.startTime.instant ≤ timestamp.instant ∧
      timestamp.instant ≤ summary.endTime.instant).map ScenarioSummary.key)

/-- A time without an offset cannot be compared with the bounds of a scenario, which have one. -/
def requireOffset (zoneId : Uuid) (timestampStr : String) : Result Unit :=
  if env.text.naive timestampStr then do
    let summaries ← loadCatalog env.math env.text env.files
    if summaries.any (zoneId ∈ ·.zoneIds) then
      throw (.typeError "can't compare offset-naive and offset-aware datetimes")
  else pure ()

/-- A search of the decks, with the index of each as it is now. -/
def searchDecks {α : Type} (search : Index R Uuid → Service Exc (IndexCache R Uuid) α) : Result α :=
  (search (fun deck => liftM (freshIndex env db deck)) []).1

/-- The ticks of an incident, from the index of its deck. -/
def incidentTicks (deck : HistoricalDeck) (incident : HistoricalIncident) :
    Result (List (IndexedTick R Uuid)) := do
  let indexed ← freshIndex env db deck
  pure (indexed.filter (·.incident = incident))

/-! ## Entities -/

def getTriggeredAgent (entityId : String) : Result (Option (GraphEntity EntityKind)) :=
  match parseTriggeredAgentId entityId with
  | none => pure none
  | some (assessmentIdStr, agentName) => do
    let assessmentId ← env.text.uuid assessmentIdStr
    match RiskAssessmentRepository.get db assessmentId with
    | none => pure none
    | some assessment =>
      pure ((agentContribution assessment agentName).map fun _ =>
        buildTriggeredAgentEntity env.text assessment.assessmentId agentName)

def getRecommendation (entityId : String) : Result (Option (GraphEntity EntityKind)) :=
  match parseRecommendationId entityId with
  | none => pure none
  | some (assessmentIdStr, recommendationKey) => do
    let assessmentId ← env.text.uuid assessmentIdStr
    match RiskAssessmentRepository.get db assessmentId with
    | none => pure none
    | some assessment =>
      pure (((recommendationTemplates assessment).find? (·.id = recommendationKey)).map
        (buildRecommendationEntity env.text assessment.assessmentId))

omit [DecidableEq Uuid] in
def getHistoricalIncident (scenarioKey : String) : Result (Option (GraphEntity EntityKind)) :=
  match (historicalDecks.flatMap HistoricalDeck.incidents).find? (·.scenarioKey = scenarioKey) with
  | none => pure none
  | some incident => do
    scenarioTitle env scenarioKey
    pure (some (buildHistoricalIncidentEntity incident))

def getForecast (entityId : String) : Result (Option (GraphEntity EntityKind)) :=
  match parseZoneTimestampId entityId with
  | none => pure none
  | some (zoneIdStr, timestampStr) => do
    let zoneId ← env.text.uuid zoneIdStr
    let timestamp ← env.text.datetime timestampStr
    requireOffset env zoneId timestampStr
    let scenarioKey ← resolveScenarioKey env zoneId timestamp
    pure (scenarioKey.map fun _ => buildForecastEntity env.text zoneId timestamp)

/-- `_build_counterfactual`: the comparator may refuse a reading. -/
def buildCounterfactual (zoneId : Uuid) (timestamp : DateTime) :
    Result (GraphEntity EntityKind) := do
  let gasTypes := (SensorRepository.listByZone db zoneId).map Sensor.gasType
  let readings := ContextBuilders.buildCounterfactualReadings env.text db zoneId gasTypes
    (some timestamp.instant)
  let _ ← Counterfactual.evaluate env.text zoneId timestamp.instant readings
  pure (buildCounterfactualEntity env.text zoneId timestamp)

def getCounterfactual (entityId : String) : Result (Option (GraphEntity EntityKind)) :=
  match parseZoneTimestampId entityId with
  | none => pure none
  | some (zoneIdStr, timestampStr) => do
    let zoneId ← env.text.uuid zoneIdStr
    let timestamp ← env.text.datetime timestampStr
    let entity ← buildCounterfactual env db zoneId timestamp
    pure (some entity)

omit [FloorRing R] [DecidableEq Uuid] in
/-- `_build_business_impact`: every sub-kind has an entity, with a value or without. -/
def getBusinessImpact (entityId : String) : Result (Option (GraphEntity EntityKind)) :=
  match parseBusinessImpactId entityId with
  | none => pure none
  | some (subKind, zoneIdStr, timestampStr) => do
    let zoneId ← env.text.uuid zoneIdStr
    let timestamp ← env.text.datetime timestampStr
    pure (some (buildBusinessImpactEntity env.text subKind zoneId timestamp))

/-- There is no branch for a sensor reading. -/
def getEntity (kind : EntityKind) (entityId : String) : Result (Option (GraphEntity EntityKind)) :=
  match kind with
  | .plant => pure (some buildPlantEntity)
  | .zone => do
    let zoneId ← env.text.uuid entityId
    pure ((ZoneRepository.get db zoneId).map (buildZoneEntity env.text))
  | .sensor => do
    let sensorId ← env.text.uuid entityId
    pure ((SensorRepository.get db sensorId).map (buildSensorEntity env.text))
  | .worker => do
    let workerId ← env.text.uuid entityId
    pure ((WorkerRepository.get db workerId).map (buildWorkerEntity env.text))
  | .equipment => do
    let equipmentId ← env.text.uuid entityId
    pure ((EquipmentRepository.get db equipmentId).map (buildEquipmentEntity env.text))
  | .permit => do
    let permitId ← env.text.uuid entityId
    pure ((PermitRepository.get db permitId).map (buildPermitEntity env.text))
  | .riskAssessment => do
    let assessmentId ← env.text.uuid entityId
    pure ((RiskAssessmentRepository.get db assessmentId).map (buildRiskAssessmentEntity env.text))
  | .triggeredAgent => getTriggeredAgent env db entityId
  | .recommendation => getRecommendation env db entityId
  | .historicalIncident => getHistoricalIncident env entityId
  | .forecast => getForecast env entityId
  | .lessonLearned => pure ((lessonsForRules [entityId]).head?.map buildLessonEntity)
  | .counterfactual => getCounterfactual env db entityId
  | .businessImpact => getBusinessImpact env entityId
  | .sensorReading => pure none

/-! ## Neighbors -/

omit [FloorRing R] [DecidableEq Uuid] in
/-- The edges name the plant, whichever id was asked for. -/
def neighborsOfPlant : List Found :=
  (ZoneRepository.listAll db).map fun zone =>
    link .plant plantId .contains (buildZoneEntity env.text zone)

omit [FloorRing R] in
def neighborsOfZone (entityId : String) : Result (List Found) := do
  let zoneId ← env.text.uuid entityId
  let link := link .zone entityId
  let permits := PermitRepository.listAll db (some zoneId) none 50 none none
  let recent := RiskAssessmentRepository.historyByZone db zoneId recentAssessmentLimit none none
  pure ((SensorRepository.listByZone db zoneId).map (link .contains <| buildSensorEntity env.text ·) ++
    (WorkerRepository.listByCurrentZone db zoneId).map
      (link .contains <| buildWorkerEntity env.text ·) ++
    (EquipmentRepository.listByZone db zoneId).map
      (link .contains <| buildEquipmentEntity env.text ·) ++
    permits.map (link .contains <| buildPermitEntity env.text ·) ++
    ((ZoneAdjacencyRepository.adjacentZoneIds db zoneId).filterMap (ZoneRepository.get db)).map
      (link .adjacentTo <| buildZoneEntity env.text ·) ++
    recent.map (link .assessedBy <| buildRiskAssessmentEntity env.text ·))

omit [FloorRing R] in
/-- The reading of its zone and gas, whichever sensor of them produced it. -/
def neighborsOfSensor (entityId : String) : Result (List Found) := do
  let sensorId ← env.text.uuid entityId
  match SensorRepository.get db sensorId with
  | none => pure []
  | some sensor =>
    pure ((SensorReadingRepository.latest db sensor.zoneId sensor.gasType).toList.map
      (link .sensor entityId .produced <| buildSensorReadingEntity env.text ·))

omit [FloorRing R] in
def neighborsOfWorker (entityId : String) : Result (List Found) := do
  let workerId ← env.text.uuid entityId
  match WorkerRepository.get db workerId with
  | none => pure []
  | some worker =>
    match worker.currentZoneId with
    | none => pure []
    | some zoneId =>
      let permits := PermitRepository.listAll db (some zoneId) none 100 none none
      pure ((ZoneRepository.get db zoneId).toList.map
          (link .worker entityId .contains <| buildZoneEntity env.text ·) ++
        (permits.filter (·.authorizingOfficerId = worker.workerId)).map
          (link .worker entityId .authorizes <| buildPermitEntity env.text ·))

omit [FloorRing R] in
def neighborsOfEquipment (entityId : String) : Result (List Found) := do
  let equipmentId ← env.text.uuid entityId
  match EquipmentRepository.get db equipmentId with
  | none => pure []
  | some equipment =>
    pure ((ZoneRepository.get db equipment.zoneId).toList.map
      (link .equipment entityId .contains <| buildZoneEntity env.text ·))

omit [FloorRing R] in
def neighborsOfPermit (entityId : String) : Result (List Found) := do
  let permitId ← env.text.uuid entityId
  match PermitRepository.get db permitId with
  | none => pure []
  | some permit =>
    pure ((ZoneRepository.get db permit.zoneId).toList.map
        (link .permit entityId .contains <| buildZoneEntity env.text ·) ++
      (WorkerRepository.get db permit.authorizingOfficerId).toList.map
        (link .permit entityId .authorizes <| buildWorkerEntity env.text ·))

def neighborsOfRiskAssessment (entityId : String) : Result (List Found) := do
  let assessmentId ← env.text.uuid entityId
  match RiskAssessmentRepository.get db assessmentId with
  | none => pure []
  | some assessment => do
    let link := link .riskAssessment entityId
    let timestamp : DateTime := ⟨assessment.timestamp, 0⟩
    let triggered := assessment.justification.agentContributions.filter (0 < ·.risk)
    let found ← searchDecks env db fun index => findSimilarIncidents index env assessment none 5 none
    let scenarioKey ← resolveScenarioKey env assessment.zoneId timestamp
    let counterfactual ← buildCounterfactual env db assessment.zoneId timestamp
    pure ((ZoneRepository.get db assessment.zoneId).toList.map
        (link .forZone <| buildZoneEntity env.text ·) ++
      triggered.map
        (link .triggered <| buildTriggeredAgentEntity env.text assessment.assessmentId ·.agentName) ++
      (recommendationTemplates assessment).map
        (link .generated <| buildRecommendationEntity env.text assessment.assessmentId ·) ++
      (found.filterMap (findIncident ·.scenarioKey)).map
        (link .matched <| buildHistoricalIncidentEntity ·) ++
      scenarioKey.toList.map (fun _ =>
        link .projectsFor (buildForecastEntity env.text assessment.zoneId timestamp)) ++
      [link .references counterfactual])

omit [FloorRing R] in
/-- The assessment must exist, the agent need not. -/
def neighborsOfTriggeredAgent (entityId : String) : Result (List Found) :=
  match parseTriggeredAgentId entityId with
  | none => pure []
  | some (assessmentIdStr, agentName) => do
    let assessmentId ← env.text.uuid assessmentIdStr
    match RiskAssessmentRepository.get db assessmentId with
    | none => pure []
    | some assessment =>
      let sensors := if agentName = "gas_risk" then
        SensorRepository.listByZone db assessment.zoneId else []
      pure (link .triggeredAgent entityId .triggered
          (buildRiskAssessmentEntity env.text assessment) ::
        sensors.map (link .triggeredAgent entityId .evidence <| buildSensorEntity env.text ·))

omit [FloorRing R] in
def neighborsOfRecommendation (entityId : String) : Result (List Found) :=
  match parseRecommendationId entityId with
  | none => pure []
  | some (assessmentIdStr, recommendationKey) => do
    let assessmentId ← env.text.uuid assessmentIdStr
    match RiskAssessmentRepository.get db assessmentId with
    | none => pure []
    | some assessment =>
      let owner := (ruleOwningAgent recommendationKey).filter fun agentName =>
        (agentContribution assessment agentName).isSome
      pure (link .recommendation entityId .generated (buildRiskAssessmentEntity env.text assessment) ::
        owner.toList.map (link .recommendation entityId .addresses <|
          buildTriggeredAgentEntity env.text assessment.assessmentId ·))

/-- The rules of an incident's ticks, each once. -/
def incidentRules (ticks : List (IndexedTick R Uuid)) : List String :=
  (ticks.flatMap fun tick => rulesFired tick.assessment).eraseDups

/-- What another incident with ticks has in common with the one of the node: up to two edges. -/
def commonIncident (entityId : String) (rules : List String) (outcome : Tier)
    (deck : HistoricalDeck) (other : HistoricalIncident) : Result (List Found) := do
  if other.scenarioKey = entityId then pure []
  else
    let ticks ← incidentTicks env db deck other
    match ticks.head? with
    | none => pure []
    | some tick => do
      let otherOutcome ← searchDecks env db fun index => outcomeTier index other tick.zoneId
      scenarioTitle env other.scenarioKey
      let link (relation : RelationKind) :=
        link .historicalIncident entityId relation (buildHistoricalIncidentEntity other)
      pure ((if otherOutcome = outcome then [link .sameOutcome] else []) ++
        if rules.any (· ∈ incidentRules ticks) then [link .sameTriggeredRule] else [])

def neighborsOfHistoricalIncident (entityId : String) : Result (List Found) :=
  match historicalDecks.find? fun deck => deck.incidents.any (·.scenarioKey = entityId) with
  | none => pure []
  | some deck =>
    match deck.incidents.find? (·.scenarioKey = entityId) with
    | none => pure []
    | some incident => do
      let ticks ← incidentTicks env db deck incident
      match ticks.head? with
      | none => pure []
      | some tick => do
        let rules := incidentRules ticks
        let outcome ← searchDecks env db fun index => outcomeTier index incident tick.zoneId
        let common ← historicalDecks.mapM fun otherDeck =>
          otherDeck.incidents.mapM (commonIncident env db entityId rules outcome otherDeck)
        pure ((lessonsForRules rules).map
          (link .historicalIncident entityId .learnedFrom <| buildLessonEntity ·) ++
            common.flatten.flatten)

/-- The edge to an incident is the incident's, and its title is asked for. -/
def supportingIncident (entityId scenarioKey : String) : Result (List Found) := do
  match findIncident scenarioKey with
  | none => pure []
  | some incident => do
    scenarioTitle env incident.scenarioKey
    let entity := buildHistoricalIncidentEntity incident
    pure [(⟨.historicalIncident, entity.id, .supports, .forecast, entityId⟩, entity)]

def neighborsOfForecast (entityId : String) : Result (List Found) :=
  match parseZoneTimestampId entityId with
  | none => pure []
  | some (zoneIdStr, timestampStr) => do
    let zoneId ← env.text.uuid zoneIdStr
    let timestamp ← env.text.datetime timestampStr
    requireOffset env zoneId timestampStr
    match ← resolveScenarioKey env zoneId timestamp with
    | none => pure []
    | some scenarioKey =>
      match RiskAssessmentRepository.getByZoneAndTimestamp db zoneId timestamp.instant with
      | none => pure []
      | some assessment => do
        let link := link .forecast entityId
        let recent := RiskAssessmentRepository.historyByZone db zoneId (recentAssessmentLimit - 1)
          (some timestamp.instant) none
        let found ← searchDecks env db fun index =>
          Foresight.operationalMatches env.sqrt index zoneId scenarioKey
            (recent.reverse ++ [assessment]) recentAssessmentLimit none 5
        let supporting ← found.mapM (supportingIncident env entityId ·.trajectory.scenarioKey)
        pure (link .projectsFor (buildRiskAssessmentEntity env.text assessment) ::
          (recommendationTemplates assessment).map
            (link .coOccursWith <| buildRecommendationEntity env.text assessment.assessmentId ·) ++
          supporting.flatten)

/-- The edge of an incident whose ticks fired the rule. -/
def incidentOfLesson (entityId : String) (deck : HistoricalDeck) (incident : HistoricalIncident) :
    Result (List Found) := do
  let ticks ← incidentTicks env db deck incident
  if entityId ∈ incidentRules ticks then do
    scenarioTitle env incident.scenarioKey
    pure [link .lessonLearned entityId .learnedFrom (buildHistoricalIncidentEntity incident)]
  else pure []

def neighborsOfLesson (entityId : String) : Result (List Found) := do
  let found ← historicalDecks.mapM fun deck =>
    deck.incidents.mapM (incidentOfLesson env db entityId deck)
  pure found.flatten.flatten

omit [FloorRing R] in
/-- The assessment of a zone and a tick. -/
def assessmentOfTick (kind : EntityKind) (entityId : String) (relation : RelationKind)
    (zoneIdStr timestampStr : String) : Result (List Found) := do
  let zoneId ← env.text.uuid zoneIdStr
  let timestamp ← env.text.datetime timestampStr
  pure ((RiskAssessmentRepository.getByZoneAndTimestamp db zoneId timestamp.instant).toList.map
    (link kind entityId relation <| buildRiskAssessmentEntity env.text ·))

omit [FloorRing R] in
def neighborsOfCounterfactual (entityId : String) : Result (List Found) :=
  match parseZoneTimestampId entityId with
  | none => pure []
  | some (zoneIdStr, timestampStr) =>
    assessmentOfTick env db .counterfactual entityId .references zoneIdStr timestampStr

omit [FloorRing R] in
def neighborsOfBusinessImpact (entityId : String) : Result (List Found) :=
  match parseBusinessImpactId entityId with
  | none => pure []
  | some (_, zoneIdStr, timestampStr) =>
    assessmentOfTick env db .businessImpact entityId .impactOf zoneIdStr timestampStr

def getNeighbors (kind : EntityKind) (entityId : String) : Result (List Found) :=
  match kind with
  | .plant => pure (neighborsOfPlant env db)
  | .zone => neighborsOfZone env db entityId
  | .sensor => neighborsOfSensor env db entityId
  | .sensorReading => pure []
  | .worker => neighborsOfWorker env db entityId
  | .equipment => neighborsOfEquipment env db entityId
  | .permit => neighborsOfPermit env db entityId
  | .riskAssessment => neighborsOfRiskAssessment env db entityId
  | .triggeredAgent => neighborsOfTriggeredAgent env db entityId
  | .recommendation => neighborsOfRecommendation env db entityId
  | .historicalIncident => neighborsOfHistoricalIncident env db entityId
  | .forecast => neighborsOfForecast env db entityId
  | .lessonLearned => neighborsOfLesson env db entityId
  | .counterfactual => neighborsOfCounterfactual env db entityId
  | .businessImpact => neighborsOfBusinessImpact env db entityId

/-- The graph service of a session. -/
def graphService : GraphService EntityKind := ⟨getEntity env db, getNeighbors env db⟩

end

end KnowledgeGraph
