import IndustrialSafety.KnowledgeGraph.Proof.Nodes

/-!
# What the graph shows

`Shows`: the facts of a database the graph draws as edges, each from the side of one node. An edge
leaves that node, but for the one of an incident that supports a forecast (`drawEdge`).
-/

namespace KnowledgeGraph

open Py Historical

section
variable {R Uuid : Type} [Field R] [LinearOrder R] [FloorRing R] [DecidableEq Uuid]
  (env : Env R Uuid) (db : Db R Uuid)

/-- An incident with a key and its ticks. -/
def TicksOf (scenarioKey : String) (deck : HistoricalDeck) (incident : HistoricalIncident)
    (ticks : List (IndexedTick R Uuid)) : Prop :=
  deck ∈ historicalDecks ∧ incident ∈ deck.incidents ∧ incident.scenarioKey = scenarioKey ∧
    incidentTicks env db deck incident = .ok ticks

/-- The worst tier of an incident, in the zone of its first tick. -/
def OutcomeOf (scenarioKey : String) (outcome : Tier) : Prop :=
  ∃ deck incident ticks, TicksOf env db scenarioKey deck incident ticks ∧
    ∃ tick ∈ ticks.head?,
      searchDecks env db (fun index => outcomeTier index incident tick.zoneId) = .ok outcome

/-- A rule that a tick of an incident fired. -/
def RuleOf (scenarioKey rule : String) : Prop :=
  ∃ deck incident ticks, TicksOf env db scenarioKey deck incident ticks ∧ rule ∈ incidentRules ticks

/-- The facts of a database, from the side of the first node. -/
inductive Shows : Node Uuid → RelationKind → Node Uuid → Prop
  | plantZone {z : Uuid} (h : (ZoneRepository.get db z).isSome) : Shows .plant .contains (.zone z)
  | zoneSensor {z s : Uuid} (h : s ∈ (SensorRepository.listByZone db z).map Sensor.sensorId) :
    Shows (.zone z) .contains (.sensor s)
  | zoneWorker {z w : Uuid}
    (h : w ∈ (WorkerRepository.listByCurrentZone db z).map Worker.workerId) :
    Shows (.zone z) .contains (.worker w)
  | zoneEquipment {z e : Uuid}
    (h : e ∈ (EquipmentRepository.listByZone db z).map Equipment.equipmentId) :
    Shows (.zone z) .contains (.equipment e)
  | zonePermit {z p : Uuid}
    (h : p ∈ (PermitRepository.listAll db (some z) none 50 none none).map Permit.permitId) :
    Shows (.zone z) .contains (.permit p)
  | zoneZone {z z' : Uuid} (h : z' ∈ ZoneAdjacencyRepository.adjacentZoneIds db z)
    (hz : (ZoneRepository.get db z').isSome) : Shows (.zone z) .adjacentTo (.zone z')
  | zoneAssessment {z i : Uuid} (h : i ∈ (RiskAssessmentRepository.historyByZone db z
      recentAssessmentLimit none none).map RiskAssessment.assessmentId) :
    Shows (.zone z) .assessedBy (.riskAssessment i)
  | sensorReading {s r : Uuid} {sensor : Sensor R Uuid} (h : SensorRepository.get db s = some sensor)
    (hr : r ∈ (SensorReadingRepository.latest db sensor.zoneId sensor.gasType).map
      SensorReading.readingId) : Shows (.sensor s) .produced (.sensorReading r)
  | workerZone {w z : Uuid} {worker : Worker Uuid} (h : WorkerRepository.get db w = some worker)
    (hz : worker.currentZoneId = some z) (hex : (ZoneRepository.get db z).isSome) :
    Shows (.worker w) .contains (.zone z)
  | workerPermit {w z p : Uuid} {worker : Worker Uuid} (h : WorkerRepository.get db w = some worker)
    (hz : worker.currentZoneId = some z)
    (hp : p ∈ ((PermitRepository.listAll db (some z) none 100 none none).filter
      (·.authorizingOfficerId = w)).map Permit.permitId) : Shows (.worker w) .authorizes (.permit p)
  | equipmentZone {e z : Uuid} {equipment : Equipment Uuid}
    (h : EquipmentRepository.get db e = some equipment) (hz : equipment.zoneId = z)
    (hex : (ZoneRepository.get db z).isSome) : Shows (.equipment e) .contains (.zone z)
  | permitZone {p z : Uuid} {permit : Permit R Uuid} (h : PermitRepository.get db p = some permit)
    (hz : permit.zoneId = z) (hex : (ZoneRepository.get db z).isSome) :
    Shows (.permit p) .contains (.zone z)
  | permitWorker {p w : Uuid} {permit : Permit R Uuid} (h : PermitRepository.get db p = some permit)
    (hw : permit.authorizingOfficerId = w) (hex : (WorkerRepository.get db w).isSome) :
    Shows (.permit p) .authorizes (.worker w)
  | assessmentZone {i z : Uuid} {a : RiskAssessment R Uuid}
    (h : RiskAssessmentRepository.get db i = some a) (hz : a.zoneId = z)
    (hex : (ZoneRepository.get db z).isSome) : Shows (.riskAssessment i) .forZone (.zone z)
  | assessmentAgent {i : Uuid} {n : String} {a : RiskAssessment R Uuid}
    (h : RiskAssessmentRepository.get db i = some a)
    (hn : n ∈ (a.justification.agentContributions.filter (0 < ·.risk)).map
      Justification.Contribution.agentName) :
    Shows (.riskAssessment i) .triggered (.triggeredAgent i n)
  | assessmentRecommendation {i : Uuid} {k : String} {a : RiskAssessment R Uuid}
    (h : RiskAssessmentRepository.get db i = some a)
    (hk : k ∈ (recommendationTemplates a).map RecommendationTemplate.id) :
    Shows (.riskAssessment i) .generated (.recommendation i k)
  | assessmentIncident {i : Uuid} {k : String} {a : RiskAssessment R Uuid}
    {found : List (IncidentMatch R Uuid)} (h : RiskAssessmentRepository.get db i = some a)
    (hfound : searchDecks env db (fun index => findSimilarIncidents index env a none 5 none) =
      .ok found) (hk : k ∈ found.map IncidentMatch.scenarioKey) (hex : (findIncident k).isSome) :
    Shows (.riskAssessment i) .matched (.historicalIncident k)
  | assessmentForecast {i z : Uuid} {t : Instant} {k : String} {a : RiskAssessment R Uuid}
    (h : RiskAssessmentRepository.get db i = some a) (hz : a.zoneId = z) (ht : a.timestamp = t)
    (hk : resolveScenarioKey env z ⟨t, 0⟩ = .ok (some k)) :
    Shows (.riskAssessment i) .projectsFor (.forecast z t)
  | assessmentCounterfactual {i z : Uuid} {t : Instant} {a : RiskAssessment R Uuid}
    (h : RiskAssessmentRepository.get db i = some a) (hz : a.zoneId = z) (ht : a.timestamp = t) :
    Shows (.riskAssessment i) .references (.counterfactual z t)
  | agentAssessment {i : Uuid} {n : String} (h : (RiskAssessmentRepository.get db i).isSome) :
    Shows (.triggeredAgent i n) .triggered (.riskAssessment i)
  | agentSensor {i s : Uuid} {n : String} {a : RiskAssessment R Uuid}
    (h : RiskAssessmentRepository.get db i = some a) (hn : n = "gas_risk")
    (hs : s ∈ (SensorRepository.listByZone db a.zoneId).map Sensor.sensorId) :
    Shows (.triggeredAgent i n) .evidence (.sensor s)
  | recommendationAssessment {i : Uuid} {k : String}
    (h : (RiskAssessmentRepository.get db i).isSome) :
    Shows (.recommendation i k) .generated (.riskAssessment i)
  | recommendationAgent {i : Uuid} {k n : String} {a : RiskAssessment R Uuid}
    (h : RiskAssessmentRepository.get db i = some a) (hn : ruleOwningAgent k = some n)
    (hc : (agentContribution a n).isSome) :
    Shows (.recommendation i k) .addresses (.triggeredAgent i n)
  | incidentLesson {k rule : String} (h : RuleOf env db k rule) :
    Shows (.historicalIncident k) .learnedFrom (.lessonLearned rule)
  | sameOutcome {k k' : String} {outcome : Tier} (hne : k' ≠ k) (h : OutcomeOf env db k outcome)
    (h' : OutcomeOf env db k' outcome) :
    Shows (.historicalIncident k) .sameOutcome (.historicalIncident k')
  | sameTriggeredRule {k k' rule : String} (hne : k' ≠ k) (h : RuleOf env db k rule)
    (h' : RuleOf env db k' rule) :
    Shows (.historicalIncident k) .sameTriggeredRule (.historicalIncident k')
  | forecastAssessment {z i : Uuid} {t : Instant} {k : String} {a : RiskAssessment R Uuid}
    (hk : resolveScenarioKey env z ⟨t, 0⟩ = .ok (some k))
    (h : RiskAssessmentRepository.getByZoneAndTimestamp db z t = some a) (hi : a.assessmentId = i) :
    Shows (.forecast z t) .projectsFor (.riskAssessment i)
  | forecastRecommendation {z i : Uuid} {t : Instant} {k key : String} {a : RiskAssessment R Uuid}
    (hk : resolveScenarioKey env z ⟨t, 0⟩ = .ok (some key))
    (h : RiskAssessmentRepository.getByZoneAndTimestamp db z t = some a) (hi : a.assessmentId = i)
    (hr : k ∈ (recommendationTemplates a).map RecommendationTemplate.id) :
    Shows (.forecast z t) .coOccursWith (.recommendation i k)
  | forecastIncident {z : Uuid} {t : Instant} {k key : String} {a : RiskAssessment R Uuid}
    {found : List (Foresight.TrajectoryMatch R Uuid)}
    (hk : resolveScenarioKey env z ⟨t, 0⟩ = .ok (some key))
    (h : RiskAssessmentRepository.getByZoneAndTimestamp db z t = some a)
    (hfound : searchDecks env db (fun index => Foresight.operationalMatches env.sqrt index z key
      ((RiskAssessmentRepository.historyByZone db z (recentAssessmentLimit - 1)
        (some t) none).reverse ++ [a]) recentAssessmentLimit none 5) = .ok found)
    (hm : k ∈ found.map (·.trajectory.scenarioKey)) (hex : (findIncident k).isSome) :
    Shows (.forecast z t) .supports (.historicalIncident k)
  | lessonIncident {k rule : String} (h : RuleOf env db k rule) :
    Shows (.lessonLearned rule) .learnedFrom (.historicalIncident k)
  | counterfactualAssessment {z i : Uuid} {t : Instant} {a : RiskAssessment R Uuid}
    (h : RiskAssessmentRepository.getByZoneAndTimestamp db z t = some a) (hi : a.assessmentId = i) :
    Shows (.counterfactual z t) .references (.riskAssessment i)
  | impactAssessment {kind : String} {z i : Uuid} {t : Instant} {a : RiskAssessment R Uuid}
    (h : RiskAssessmentRepository.getByZoneAndTimestamp db z t = some a) (hi : a.assessmentId = i) :
    Shows (.businessImpact kind z t) .impactOf (.riskAssessment i)

end

/-! ## Drawing a fact -/

/-- The key the edges of a node have: the plant's is always the same. -/
def namedKey (kind : EntityKind) (entityId : String) : EntityKind × String :=
  match kind with
  | .plant => (.plant, plantId)
  | kind => (kind, entityId)

/-- The edge between a queried node and its neighbor. An incident supports a forecast, not the other
way round. -/
def drawEdge (key : EntityKind × String) (relation : RelationKind)
    (neighbor : EntityKind × String) : GraphEdge EntityKind :=
  match relation with
  | .supports => ⟨neighbor.1, neighbor.2, .supports, key.1, key.2⟩
  | relation => ⟨key.1, key.2, relation, neighbor.1, neighbor.2⟩

section
variable {R Uuid : Type} (T : Text R Uuid)

def draw (key : EntityKind × String) (relation : RelationKind) (b : Node Uuid) : Found :=
  (drawEdge key relation (b.entity T).key, b.entity T)

end

end KnowledgeGraph
