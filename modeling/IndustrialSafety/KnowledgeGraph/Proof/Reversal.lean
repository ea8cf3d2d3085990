import IndustrialSafety.KnowledgeGraph.Proof.Opening
import IndustrialSafety.Orchestrator.Proof.Counterfactual

/-!
# Edges from both sides

`Adjacent a b`: `get_neighbors` of `a` returns an edge that connects it with `b`, that is, `a` shows a
fact about `b` and its handler returns (`adjacent_iff`). For each kind of fact `Reversible` is what makes
`b` show `a` in turn (`adjacent_comm_iff`): nothing for some, a row within a limit or in the table for
others, and for some kinds no handler asks for the other side.
-/

namespace KnowledgeGraph

open Py Historical

section
variable {R Uuid : Type} [Field R] [LinearOrder R] [FloorRing R] [DecidableEq Uuid]
  {env : Env R Uuid} {db : Db R Uuid}

/-! ## Adjacent nodes -/

def Returns (env : Env R Uuid) (db : Db R Uuid) (a : Node Uuid) : Prop :=
  ∃ l, getNeighbors env db a.kind (a.id env.text) = .ok l

/-- `get_neighbors` of `a` returns an edge between `a` and `b`. -/
def Adjacent (env : Env R Uuid) (db : Db R Uuid) (a b : Node Uuid) : Prop :=
  ∃ l, getNeighbors env db a.kind (a.id env.text) = .ok l ∧
    ∃ p ∈ l, p.1.Connects (a.entity env.text).key (b.entity env.text).key

omit [Field R] [LinearOrder R] [FloorRing R] [DecidableEq Uuid] in
theorem entity_key (T : Text R Uuid) (a : Node Uuid) : (a.entity T).key = (a.kind, a.id T) := by
  rw [GraphEntity.key, Node.entity_kind]
  rfl

omit [Field R] [LinearOrder R] [FloorRing R] [DecidableEq Uuid] in
theorem namedKey_id (T : Text R Uuid) (a : Node Uuid) :
    namedKey a.kind (a.id T) = (a.entity T).key := by
  cases a <;> rfl

theorem connects_drawEdge {a b k : EntityKind × String} (relation : RelationKind) :
    (drawEdge a relation b).Connects a k ↔ b = k := by
  unfold GraphEdge.Connects drawEdge
  split
  · constructor
    · rintro (⟨h1, h2⟩ | ⟨h1, h2⟩)
      · exact h1.trans h2
      · exact h1
    · exact fun h => .inr ⟨h, rfl⟩
  · constructor
    · rintro (⟨h1, h2⟩ | ⟨h1, h2⟩)
      · exact h2
      · exact h2.trans h1
    · exact fun h => .inl ⟨rfl, h⟩

theorem adjacent_iff (hT : Separated env.text) {a b : Node Uuid} :
    Adjacent env db a b ↔ Returns env db a ∧ a.Readable ∧ ∃ relation, Shows env db a relation b := by
  constructor
  · rintro ⟨l, hl, p, hp, hconnects⟩
    obtain ⟨a', relation, b', hread, hshows, rfl⟩ := (mem_getNeighbors hl p).1 hp
    have ha : a.Readable := by
      by_contra hunreadable
      exact nomatch (readId_id_of_not hunreadable).symm.trans hread
    cases (readId_id hT ha).symm.trans hread
    rw [draw, namedKey_id, connects_drawEdge, entity_key, entity_key, Prod.mk.injEq] at hconnects
    obtain rfl := id_injective hT hconnects.1 hconnects.2
    exact ⟨⟨l, hl⟩, ha, relation, hshows⟩
  · rintro ⟨⟨l, hl⟩, ha, relation, hshows⟩
    refine ⟨l, hl, _, (mem_getNeighbors hl _).2 ⟨a, relation, b, readId_id hT ha, hshows, rfl⟩, ?_⟩
    rw [draw, namedKey_id, connects_drawEdge]

theorem adjacent_iff_shows (hT : Separated env.text) {a b : Node Uuid} (hreturns : Returns env db a)
    (hread : a.Readable) : Adjacent env db a b ↔ ∃ relation, Shows env db a relation b := by
  rw [adjacent_iff hT, and_iff_right hreturns, and_iff_right hread]

/-! ## Handlers that return -/

theorem returns_zone (z : Uuid) : Returns env db (.zone z) := by
  simp [Returns, Node.kind, Node.id, Node.entity, getNeighbors, neighborsOfZone]

theorem returns_worker (w : Uuid) : Returns env db (.worker w) := by
  unfold Returns
  simp only [Node.kind, Node.id, Node.entity, getNeighbors, neighborsOfWorker, uuid_uuidStr,
    Except.ok_bind]
  split
  · exact ⟨_, rfl⟩
  · split <;> exact ⟨_, rfl⟩

theorem returns_permit (p : Uuid) : Returns env db (.permit p) := by
  unfold Returns
  simp only [Node.kind, Node.id, Node.entity, getNeighbors, neighborsOfPermit, uuid_uuidStr,
    Except.ok_bind]
  split <;> exact ⟨_, rfl⟩

theorem returns_equipment (e : Uuid) : Returns env db (.equipment e) := by
  unfold Returns
  simp only [Node.kind, Node.id, Node.entity, getNeighbors, neighborsOfEquipment, uuid_uuidStr,
    Except.ok_bind]
  split <;> exact ⟨_, rfl⟩

theorem returns_triggeredAgent (hT : Separated env.text) {i : Uuid} {n : String}
    (hn : idSeparator ∉ n.toList) : Returns env db (.triggeredAgent i n) := by
  unfold Returns
  simp only [Node.kind, Node.id, Node.entity, getNeighbors, neighborsOfTriggeredAgent,
    buildTriggeredAgentEntity, triggeredAgentId, parseTriggeredAgentId,
    parsePair_joinId (hT.uuidStr i) hn, uuid_uuidStr, Except.ok_bind]
  split <;> exact ⟨_, rfl⟩

theorem returns_recommendation (hT : Separated env.text) {i : Uuid} {k : String}
    (hk : idSeparator ∉ k.toList) : Returns env db (.recommendation i k) := by
  unfold Returns
  simp only [Node.kind, Node.id, Node.entity, getNeighbors, neighborsOfRecommendation,
    recommendationId, parseRecommendationId, parsePair_joinId (hT.uuidStr i) hk, uuid_uuidStr,
    Except.ok_bind]
  split <;> exact ⟨_, rfl⟩

theorem returns_counterfactual (hT : Separated env.text) (z : Uuid) (t : Instant) :
    Returns env db (.counterfactual z t) := by
  unfold Returns
  simp only [Node.kind, Node.id, Node.entity, getNeighbors, neighborsOfCounterfactual,
    buildCounterfactualEntity, counterfactualId, parseZoneTimestampId,
    parsePair_joinId (hT.uuidStr z) (hT.isoformat ⟨t, 0⟩), assessmentOfTick, uuid_uuidStr,
    datetime_isoformat, Except.ok_bind]
  exact ⟨_, rfl⟩

/-- The catalog loads, and the readings up to the tick pass the comparator's checks. -/
def Accepted (env : Env R Uuid) (db : Db R Uuid) (a : RiskAssessment R Uuid) : Prop :=
  CatalogLoads env ∧ ∀ r ∈ ContextBuilders.buildCounterfactualReadings env.text db a.zoneId
    ((SensorRepository.listByZone db a.zoneId).map Sensor.gasType) (some a.timestamp), r.Valid

omit [FloorRing R] in
theorem buildCounterfactual_total_iff {z : Uuid} {t : DateTime} :
    (∃ entity, buildCounterfactual env db z t = .ok entity) ↔
      ∀ r ∈ ContextBuilders.buildCounterfactualReadings env.text db z
        ((SensorRepository.listByZone db z).map Sensor.gasType) (some t.instant), r.Valid := by
  constructor
  · rintro ⟨entity, h⟩
    obtain ⟨result, hresult, -⟩ := Except.bind_eq_ok.1 h
    exact (Counterfactual.evaluate_eq_ok.1 hresult).1
  · intro hvalid
    exact ⟨_, Except.bind_eq_ok.2 ⟨_, Counterfactual.evaluate_eq_ok.2 ⟨hvalid, rfl⟩, rfl⟩⟩

theorem liftM_freshIndex_returns (hload : CatalogLoads env) (deck : HistoricalDeck) :
    (liftM (freshIndex env db deck) : Service Exc (IndexCache R Uuid) _).Returns :=
  Service.returns_lift (freshIndex_total hload deck)

section
variable [IsStrictOrderedRing R] (hsqrt : ∀ x, 0 ≤ env.sqrt x)

include hsqrt

theorem neighborsOfRiskAssessment_total_iff {entityId : String} {i : Uuid} {a : RiskAssessment R Uuid}
    (hread : env.text.uuid entityId = .ok i) (hget : RiskAssessmentRepository.get db i = some a) :
    (∃ l, neighborsOfRiskAssessment env db entityId = .ok l) ↔ Accepted env db a := by
  constructor
  · rintro ⟨l, hrun⟩
    obtain ⟨hload, hbuild⟩ := riskAssessment_answered hread hrun hget
    have hvalid := buildCounterfactual_total_iff.1 hbuild
    exact ⟨hload, hvalid⟩
  · rintro ⟨hload, hvalid⟩
    have hbuild := (buildCounterfactual_total_iff (t := ⟨a.timestamp, 0⟩)).2 hvalid
    unfold neighborsOfRiskAssessment
    rw [hread, Except.ok_bind, hget]
    refine Except.bind_total (searchDecks_total ?_) fun _ _ => ?_
    · exact findSimilarIncidents_returns (liftM_freshIndex_returns hload) hsqrt hload _ _ _ _
    refine Except.bind_total (resolveScenarioKey_total hload _ _) fun _ _ => ?_
    refine Except.bind_total hbuild fun _ _ => ?_
    exact ⟨_, rfl⟩

theorem returns_riskAssessment_iff {i : Uuid} {a : RiskAssessment R Uuid}
    (hget : RiskAssessmentRepository.get db i = some a) :
    Returns env db (.riskAssessment i) ↔ Accepted env db a :=
  neighborsOfRiskAssessment_total_iff hsqrt (uuid_uuidStr env.text i) hget

omit hsqrt [DecidableEq Uuid] [IsStrictOrderedRing R] in
theorem supportingIncident_total (hload : CatalogLoads env) (entityId k : String) :
    ∃ l, supportingIncident env entityId k = .ok l := by
  unfold supportingIncident
  split
  · exact ⟨_, rfl⟩
  · exact Except.bind_total ⟨_, scenarioTitle_eq_ok hload _⟩ fun _ _ => ⟨_, rfl⟩

theorem neighborsOfForecast_total (hload : CatalogLoads env) {entityId zoneIdStr timestampStr : String}
    {z : Uuid} {t : DateTime} (hparse : parseZoneTimestampId entityId = some (zoneIdStr, timestampStr))
    (hz : env.text.uuid zoneIdStr = .ok z) (ht : env.text.datetime timestampStr = .ok t)
    (hoffset : requireOffset env z timestampStr = .ok ()) :
    ∃ l, neighborsOfForecast env db entityId = .ok l := by
  unfold neighborsOfForecast
  rw [hparse]
  dsimp only
  rw [hz, Except.ok_bind, ht, Except.ok_bind, hoffset, Except.ok_bind]
  refine Except.bind_total (resolveScenarioKey_total hload _ _) fun scenarioKey _ => ?_
  cases scenarioKey with
  | none => exact ⟨_, rfl⟩
  | some scenarioKey =>
    dsimp only
    split
    · exact ⟨_, rfl⟩
    · refine Except.bind_total (searchDecks_total ?_) fun _ _ => ?_
      · exact Foresight.operationalMatches_returns (liftM_freshIndex_returns hload) hsqrt _ _
          (by simp) _ _ _
      · exact Except.bind_total
          (Except.mapM_total fun _ _ => supportingIncident_total hload _ _) fun _ _ => ⟨_, rfl⟩

theorem returns_forecast (hT : Separated env.text) (hload : CatalogLoads env) (z : Uuid)
    (t : Instant) : Returns env db (.forecast z t) :=
  neighborsOfForecast_total hsqrt hload (parsePair_joinId (hT.uuidStr z) (hT.isoformat ⟨t, 0⟩))
    (uuid_uuidStr env.text z) (datetime_isoformat env.text ⟨t, 0⟩) (requireOffset_isoformat z ⟨t, 0⟩)

end

theorem outcome_total (hload : CatalogLoads env) (incident : HistoricalIncident) (z : Uuid) :
    ∃ outcome, searchDecks env db (fun index => outcomeTier index incident z) = .ok outcome :=
  searchDecks_total (outcomeTier_returns (liftM_freshIndex_returns hload) incident z)

theorem returns_historicalIncident (hload : CatalogLoads env) (k : String) :
    Returns env db (.historicalIncident k) := by
  have hcommon : ∀ rules outcome deck other,
      ∃ l, commonIncident env db k rules outcome deck other = .ok l := by
    intro rules outcome deck other
    unfold commonIncident
    split
    · exact ⟨_, rfl⟩
    · refine Except.bind_total (incidentTicks_total hload deck other) fun ticks _ => ?_
      cases ticks.head? with
      | none => exact ⟨_, rfl⟩
      | some tick =>
        exact Except.bind_total (outcome_total hload other _) fun _ _ =>
          Except.bind_total ⟨_, scenarioTitle_eq_ok hload _⟩ fun _ _ => ⟨_, rfl⟩
  show ∃ l, neighborsOfHistoricalIncident env db k = .ok l
  unfold neighborsOfHistoricalIncident
  split
  · exact ⟨_, rfl⟩
  · split
    · exact ⟨_, rfl⟩
    · refine Except.bind_total (incidentTicks_total hload _ _) fun ticks _ => ?_
      cases ticks.head? with
      | none => exact ⟨_, rfl⟩
      | some tick =>
        exact Except.bind_total (outcome_total hload _ _) fun outcome _ =>
          Except.bind_total (Except.mapM_total fun deck _ =>
            Except.mapM_total fun other _ => hcommon _ _ deck other) fun _ _ => ⟨_, rfl⟩

theorem returns_lessonLearned (hload : CatalogLoads env) (rule : String) :
    Returns env db (.lessonLearned rule) := by
  have hincident : ∀ deck incident, ∃ l, incidentOfLesson env db rule deck incident = .ok l := by
    intro deck incident
    refine Except.bind_total (incidentTicks_total hload deck incident) fun ticks _ => ?_
    split
    · exact Except.bind_total ⟨_, scenarioTitle_eq_ok hload _⟩ fun _ _ => ⟨_, rfl⟩
    · exact ⟨_, rfl⟩
  exact Except.bind_total (Except.mapM_total fun deck _ =>
    Except.mapM_total fun incident _ => hincident deck incident) fun _ _ => ⟨_, rfl⟩

/-! ## Both sides -/

/-- What makes the second node of a fact show the first. -/
def Reversible (env : Env R Uuid) (db : Db R Uuid) : Node Uuid → Node Uuid → Prop
  | .zone z, .worker _ | .zone z, .equipment _ | .zone z, .permit _ =>
    (ZoneRepository.get db z).isSome
  | .zone z, .zone z' =>
    (ZoneRepository.get db z).isSome ∧ z ∈ ZoneAdjacencyRepository.adjacentZoneIds db z'
  | .zone z, .riskAssessment i => (ZoneRepository.get db z).isSome ∧
    ∃ row ∈ RiskAssessmentRepository.get db i, row.zoneId = z ∧ Accepted env db row
  | .permit p, .zone z =>
    p ∈ (PermitRepository.listAll db (some z) none 50 none none).map Permit.permitId
  | .permit p, .worker w => ∃ worker ∈ WorkerRepository.get db w, ∃ z ∈ worker.currentZoneId,
    p ∈ ((PermitRepository.listAll db (some z) none 100 none none).filter
      (·.authorizingOfficerId = w)).map Permit.permitId
  | .riskAssessment i, .zone z => i ∈ (RiskAssessmentRepository.historyByZone db z
    recentAssessmentLimit none none).map RiskAssessment.assessmentId
  | .riskAssessment _, .triggeredAgent _ n => idSeparator ∉ n.toList
  | .riskAssessment i, .forecast z t | .riskAssessment i, .counterfactual z t =>
    ∃ row ∈ RiskAssessmentRepository.getByZoneAndTimestamp db z t, row.assessmentId = i
  | .triggeredAgent i n, .riskAssessment _ => ∃ row ∈ RiskAssessmentRepository.get db i,
    n ∈ (row.justification.agentContributions.filter (0 < ·.risk)).map
      Justification.Contribution.agentName ∧ Accepted env db row
  | .recommendation i k, .riskAssessment _ => ∃ row ∈ RiskAssessmentRepository.get db i,
    k ∈ (recommendationTemplates row).map RecommendationTemplate.id ∧ Accepted env db row
  | .forecast z t, .riskAssessment i | .counterfactual z t, .riskAssessment i =>
    ∃ row ∈ RiskAssessmentRepository.get db i,
      row.zoneId = z ∧ row.timestamp = t ∧ Accepted env db row
  | .worker _, .zone _ | .worker _, .permit _ | .equipment _, .zone _
  | .riskAssessment _, .recommendation _ _ | .historicalIncident _, .historicalIncident _
  | .historicalIncident _, .lessonLearned _ | .lessonLearned _, .historicalIncident _ => True
  | _, _ => False

omit [Field R] [LinearOrder R] [FloorRing R] in
theorem permit_of_listAll {z : Uuid} {n : Nat} {permit : Permit R Uuid}
    (h : permit ∈ PermitRepository.listAll db (some z) none n none none) :
    PermitRepository.get db permit.permitId = some permit ∧ permit.zoneId = z := by
  obtain ⟨hmem, hcolumns⟩ := List.mem_filter.1 ((Query.mem_orderByDesc _).1 (List.mem_of_mem_take h))
  exact ⟨Table.get?_eq_some.2 ⟨hmem, rfl⟩, by simpa using hcolumns⟩

theorem RuleOf.catalogLoads {k rule : String} (h : RuleOf env db k rule) : CatalogLoads env := by
  obtain ⟨deck, incident, ticks, ⟨-, hi, -, hticks⟩, -⟩ := h
  exact catalogLoads_of_incidentTicks hi hticks

theorem OutcomeOf.catalogLoads {k : String} {outcome : Tier} (h : OutcomeOf env db k outcome) :
    CatalogLoads env := by
  obtain ⟨deck, incident, ticks, ⟨-, hi, -, hticks⟩, -⟩ := h
  exact catalogLoads_of_incidentTicks hi hticks

/-- The other side of a fact that only its first node shows. -/
theorem back_of_one_way (hT : Separated env.text) {a b : Node Uuid}
    (hback : ∀ relation, ¬Shows env db b relation a) (h : ¬Reversible env db a b) :
    Adjacent env db b a ↔ Reversible env db a b :=
  iff_of_false (fun hadjacent => by
    obtain ⟨-, -, relation, hshows⟩ := (adjacent_iff hT).1 hadjacent
    exact hback relation hshows) h

section
variable (hT : Separated env.text) {b : Node Uuid} {relation : RelationKind}

include hT

theorem worker_back_iff {w : Uuid} (h : Shows env db (.worker w) relation b) :
    Adjacent env db b (.worker w) ↔ Reversible env db (.worker w) b := by
  cases h with
  | @workerZone w z worker hget hz hex =>
    obtain ⟨hmem, rfl⟩ := Table.get?_eq_some.1 hget
    refine iff_of_true ((adjacent_iff_shows hT (returns_zone z) trivial).2 ⟨_, .zoneWorker ?_⟩) trivial
    exact List.mem_map_of_mem (List.mem_filter.2 ⟨hmem, by simpa using hz⟩)
  | @workerPermit w z p worker hget hz hp =>
    obtain ⟨permit, hpermit, rfl⟩ := List.mem_map.1 hp
    obtain ⟨hlisted, hofficer⟩ := List.mem_filter.1 hpermit
    have hback : Shows env db (.permit permit.permitId) .authorizes (.worker w) :=
      .permitWorker (permit_of_listAll hlisted).1 (by simpa using hofficer) (by rw [hget]; rfl)
    exact iff_of_true ((adjacent_iff_shows hT (returns_permit _) trivial).2 ⟨_, hback⟩) trivial

theorem equipment_back_iff {e : Uuid} (h : Shows env db (.equipment e) relation b) :
    Adjacent env db b (.equipment e) ↔ Reversible env db (.equipment e) b := by
  cases h with
  | @equipmentZone e z equipment hget hz hex =>
    obtain ⟨hmem, rfl⟩ := Table.get?_eq_some.1 hget
    refine iff_of_true ((adjacent_iff_shows hT (returns_zone z) trivial).2 ⟨_, .zoneEquipment ?_⟩)
      trivial
    exact List.mem_map_of_mem (List.mem_filter.2 ⟨hmem, by simpa using hz⟩)

theorem permit_back_iff {p : Uuid} (h : Shows env db (.permit p) relation b) :
    Adjacent env db b (.permit p) ↔ Reversible env db (.permit p) b := by
  cases h with
  | @permitZone p z permit hget hz hex =>
    rw [adjacent_iff_shows hT (returns_zone _) trivial]
    show _ ↔ p ∈ (PermitRepository.listAll db (some z) none 50 none none).map Permit.permitId
    constructor
    · rintro ⟨_, hback⟩
      cases hback with
      | zonePermit hp => exact hp
    · exact fun hp => ⟨_, .zonePermit hp⟩
  | @permitWorker p w permit hget hw hex =>
    rw [adjacent_iff_shows hT (returns_worker _) trivial]
    show _ ↔ ∃ worker ∈ WorkerRepository.get db w, ∃ z ∈ worker.currentZoneId,
      p ∈ ((PermitRepository.listAll db (some z) none 100 none none).filter
        (·.authorizingOfficerId = w)).map Permit.permitId
    constructor
    · rintro ⟨_, hback⟩
      cases hback with
      | workerPermit hget hz hp => exact ⟨_, hget, _, hz, hp⟩
    · exact fun ⟨worker, hget, z, hz, hp⟩ => ⟨_, .workerPermit hget hz hp⟩

theorem incident_back_iff {k : String} (h : Shows env db (.historicalIncident k) relation b) :
    Adjacent env db b (.historicalIncident k) ↔ Reversible env db (.historicalIncident k) b := by
  cases h with
  | incidentLesson hrule =>
    have hload := hrule.catalogLoads
    exact iff_of_true ((adjacent_iff_shows hT (returns_lessonLearned hload _) trivial).2
      ⟨_, .lessonIncident hrule⟩) trivial
  | sameOutcome hne houtcome houtcome' =>
    have hload := houtcome.catalogLoads
    exact iff_of_true ((adjacent_iff_shows hT (returns_historicalIncident hload _) trivial).2
      ⟨_, .sameOutcome hne.symm houtcome' houtcome⟩) trivial
  | sameTriggeredRule hne hrule hrule' =>
    have hload := hrule.catalogLoads
    exact iff_of_true ((adjacent_iff_shows hT (returns_historicalIncident hload _) trivial).2
      ⟨_, .sameTriggeredRule hne.symm hrule' hrule⟩) trivial

theorem lesson_back_iff {rule : String} (h : Shows env db (.lessonLearned rule) relation b) :
    Adjacent env db b (.lessonLearned rule) ↔ Reversible env db (.lessonLearned rule) b := by
  cases h with
  | lessonIncident hrule =>
    have hload := hrule.catalogLoads
    exact iff_of_true ((adjacent_iff_shows hT (returns_historicalIncident hload _) trivial).2
      ⟨_, .incidentLesson hrule⟩) trivial

end

section
variable [IsStrictOrderedRing R]

/-- An assessment shows what its row does, once its readings are accepted. -/
theorem assessment_adjacent_iff (hT : Separated env.text) (hsqrt : ∀ x, 0 ≤ env.sqrt x) {i : Uuid}
    {b : Node Uuid} {P : RiskAssessment R Uuid → Prop}
    (hshows : (∃ relation, Shows env db (.riskAssessment i) relation b) ↔
      ∃ row ∈ RiskAssessmentRepository.get db i, P row) :
    Adjacent env db (.riskAssessment i) b ↔
      ∃ row ∈ RiskAssessmentRepository.get db i, P row ∧ Accepted env db row := by
  rw [adjacent_iff hT, hshows]
  constructor
  · rintro ⟨hreturns, -, row, hrow, hP⟩
    exact ⟨row, hrow, hP, (returns_riskAssessment_iff hsqrt hrow).1 hreturns⟩
  · rintro ⟨row, hrow, hP, haccepted⟩
    exact ⟨(returns_riskAssessment_iff hsqrt hrow).2 haccepted, trivial, row, hrow, hP⟩

section
variable (hT : Separated env.text) {b : Node Uuid} {relation : RelationKind}

include hT

theorem zone_back_iff (hsqrt : ∀ x, 0 ≤ env.sqrt x) {z : Uuid}
    (h : Shows env db (.zone z) relation b) :
    Adjacent env db b (.zone z) ↔ Reversible env db (.zone z) b := by
  cases h with
  | zoneSensor => exact back_of_one_way hT (fun _ => nofun) id
  | @zoneWorker z w hw =>
    obtain ⟨worker, hworker, rfl⟩ := List.mem_map.1 hw
    obtain ⟨hmem, hz⟩ := List.mem_filter.1 hworker
    rw [adjacent_iff_shows hT (returns_worker _) trivial]
    show _ ↔ (ZoneRepository.get db z).isSome
    constructor
    · rintro ⟨_, hback⟩
      cases hback with
      | workerZone _ _ hex => exact hex
    · intro hex
      exact ⟨_, .workerZone (Table.get?_eq_some.2 ⟨hmem, rfl⟩) (by simpa using hz) hex⟩
  | @zoneEquipment z e he =>
    obtain ⟨equipment, hequipment, rfl⟩ := List.mem_map.1 he
    obtain ⟨hmem, hz⟩ := List.mem_filter.1 hequipment
    rw [adjacent_iff_shows hT (returns_equipment _) trivial]
    show _ ↔ (ZoneRepository.get db z).isSome
    constructor
    · rintro ⟨_, hback⟩
      cases hback with
      | equipmentZone _ _ hex => exact hex
    · intro hex
      exact ⟨_, .equipmentZone (Table.get?_eq_some.2 ⟨hmem, rfl⟩) (by simpa using hz) hex⟩
  | @zonePermit z p hp =>
    obtain ⟨permit, hpermit, rfl⟩ := List.mem_map.1 hp
    obtain ⟨hget, hz⟩ := permit_of_listAll hpermit
    rw [adjacent_iff_shows hT (returns_permit _) trivial]
    show _ ↔ (ZoneRepository.get db z).isSome
    constructor
    · rintro ⟨_, hback⟩
      cases hback with
      | permitZone _ _ hex => exact hex
    · exact fun hex => ⟨_, .permitZone hget hz hex⟩
  | @zoneZone z z' hz hex =>
    rw [adjacent_iff_shows hT (returns_zone _) trivial]
    show _ ↔ (ZoneRepository.get db z).isSome ∧ z ∈ ZoneAdjacencyRepository.adjacentZoneIds db z'
    constructor
    · rintro ⟨_, hback⟩
      cases hback with
      | zoneZone hadj hex => exact ⟨hex, hadj⟩
    · exact fun ⟨hex, hadj⟩ => ⟨_, .zoneZone hadj hex⟩
  | @zoneAssessment z i hi =>
    show _ ↔ (ZoneRepository.get db z).isSome ∧
      ∃ row ∈ RiskAssessmentRepository.get db i, row.zoneId = z ∧ Accepted env db row
    rw [assessment_adjacent_iff (P := fun row => row.zoneId = z ∧ (ZoneRepository.get db z).isSome)
      hT hsqrt]
    · constructor
      · exact fun ⟨row, hrow, ⟨hz, hex⟩, haccepted⟩ => ⟨hex, row, hrow, hz, haccepted⟩
      · exact fun ⟨hex, row, hrow, hz, haccepted⟩ => ⟨row, hrow, ⟨hz, hex⟩, haccepted⟩
    · constructor
      · rintro ⟨_, hback⟩
        cases hback with
        | assessmentZone hget hz hex => exact ⟨_, hget, hz, hex⟩
      · exact fun ⟨row, hrow, hz, hex⟩ => ⟨_, .assessmentZone hrow hz hex⟩

theorem assessment_back_iff (hsqrt : ∀ x, 0 ≤ env.sqrt x) {i : Uuid}
    (h : Shows env db (.riskAssessment i) relation b) :
    Adjacent env db b (.riskAssessment i) ↔ Reversible env db (.riskAssessment i) b := by
  cases h with
  | assessmentIncident => exact back_of_one_way hT (fun _ => nofun) id
  | @assessmentZone i z a hget hz hex =>
    rw [adjacent_iff_shows hT (returns_zone _) trivial]
    show _ ↔ i ∈ (RiskAssessmentRepository.historyByZone db z recentAssessmentLimit none none).map
      RiskAssessment.assessmentId
    constructor
    · rintro ⟨_, hback⟩
      cases hback with
      | zoneAssessment hi => exact hi
    · exact fun hi => ⟨_, .zoneAssessment hi⟩
  | @assessmentAgent i n a hget hn =>
    show _ ↔ idSeparator ∉ n.toList
    constructor
    · exact fun hback => ((adjacent_iff hT).1 hback).2.1
    · intro hname
      refine (adjacent_iff_shows hT (returns_triggeredAgent hT hname) hname).2 ⟨_, .agentAssessment ?_⟩
      rw [hget]
      rfl
  | assessmentRecommendation hget hk =>
    have hname := separator_not_mem_template hk
    refine iff_of_true ?_ trivial
    refine (adjacent_iff_shows hT (returns_recommendation hT hname) hname).2
      ⟨_, .recommendationAssessment ?_⟩
    rw [hget]
    rfl
  | @assessmentForecast i z t k a hget hz ht hk =>
    have hload := catalogLoads_of_resolveScenarioKey hk
    rw [adjacent_iff_shows hT (returns_forecast hsqrt hT hload z t) trivial]
    show _ ↔ ∃ row ∈ RiskAssessmentRepository.getByZoneAndTimestamp db z t, row.assessmentId = i
    constructor
    · rintro ⟨_, hback⟩
      cases hback with
      | forecastAssessment _ hrow hi => exact ⟨_, hrow, hi⟩
    · exact fun ⟨row, hrow, hi⟩ => ⟨_, .forecastAssessment hk hrow hi⟩
  | @assessmentCounterfactual i z t a hget hz ht =>
    rw [adjacent_iff_shows hT (returns_counterfactual hT z t) trivial]
    show _ ↔ ∃ row ∈ RiskAssessmentRepository.getByZoneAndTimestamp db z t, row.assessmentId = i
    constructor
    · rintro ⟨_, hback⟩
      cases hback with
      | counterfactualAssessment hrow hi => exact ⟨_, hrow, hi⟩
    · exact fun ⟨row, hrow, hi⟩ => ⟨_, .counterfactualAssessment hrow hi⟩

theorem agent_back_iff (hsqrt : ∀ x, 0 ≤ env.sqrt x) {i : Uuid} {n : String}
    (h : Shows env db (.triggeredAgent i n) relation b) :
    Adjacent env db b (.triggeredAgent i n) ↔ Reversible env db (.triggeredAgent i n) b := by
  cases h with
  | agentSensor => exact back_of_one_way hT (fun _ => nofun) id
  | agentAssessment hex =>
    refine assessment_adjacent_iff hT hsqrt ⟨?_, ?_⟩
    · rintro ⟨_, hback⟩
      cases hback with
      | assessmentAgent hget hn => exact ⟨_, hget, hn⟩
    · exact fun ⟨row, hrow, hn⟩ => ⟨_, .assessmentAgent hrow hn⟩

theorem recommendation_back_iff (hsqrt : ∀ x, 0 ≤ env.sqrt x) {i : Uuid} {k : String}
    (h : Shows env db (.recommendation i k) relation b) :
    Adjacent env db b (.recommendation i k) ↔ Reversible env db (.recommendation i k) b := by
  cases h with
  | recommendationAgent => exact back_of_one_way hT (fun _ => nofun) id
  | recommendationAssessment hex =>
    refine assessment_adjacent_iff hT hsqrt ⟨?_, ?_⟩
    · rintro ⟨_, hback⟩
      cases hback with
      | assessmentRecommendation hget hk => exact ⟨_, hget, hk⟩
    · exact fun ⟨row, hrow, hk⟩ => ⟨_, .assessmentRecommendation hrow hk⟩

theorem forecast_back_iff (hsqrt : ∀ x, 0 ≤ env.sqrt x) {z : Uuid} {t : Instant}
    (h : Shows env db (.forecast z t) relation b) :
    Adjacent env db b (.forecast z t) ↔ Reversible env db (.forecast z t) b := by
  cases h with
  | forecastRecommendation | forecastIncident => exact back_of_one_way hT (fun _ => nofun) id
  | @forecastAssessment z i t k a hk hget hi =>
    show _ ↔ ∃ row ∈ RiskAssessmentRepository.get db i,
      row.zoneId = z ∧ row.timestamp = t ∧ Accepted env db row
    rw [assessment_adjacent_iff (P := fun row => row.zoneId = z ∧ row.timestamp = t) hT hsqrt]
    · simp only [and_assoc]
    · constructor
      · rintro ⟨_, hback⟩
        cases hback with
        | assessmentForecast hget hz ht => exact ⟨_, hget, hz, ht⟩
      · exact fun ⟨row, hrow, hz, ht⟩ => ⟨_, .assessmentForecast hrow hz ht hk⟩

theorem counterfactual_back_iff (hsqrt : ∀ x, 0 ≤ env.sqrt x) {z : Uuid} {t : Instant}
    (h : Shows env db (.counterfactual z t) relation b) :
    Adjacent env db b (.counterfactual z t) ↔ Reversible env db (.counterfactual z t) b := by
  cases h with
  | @counterfactualAssessment z i t a hget hi =>
    show _ ↔ ∃ row ∈ RiskAssessmentRepository.get db i,
      row.zoneId = z ∧ row.timestamp = t ∧ Accepted env db row
    rw [assessment_adjacent_iff (P := fun row => row.zoneId = z ∧ row.timestamp = t) hT hsqrt]
    · simp only [and_assoc]
    · constructor
      · rintro ⟨_, hback⟩
        cases hback with
        | assessmentCounterfactual hget hz ht => exact ⟨_, hget, hz, ht⟩
      · exact fun ⟨row, hrow, hz, ht⟩ => ⟨_, .assessmentCounterfactual hrow hz ht⟩

end

/-- **Which edges are returned from both sides.** -/
theorem adjacent_comm_iff (hT : Separated env.text) (hsqrt : ∀ x, 0 ≤ env.sqrt x) {a b : Node Uuid}
    (h : Adjacent env db a b) : Adjacent env db b a ↔ Reversible env db a b := by
  obtain ⟨-, ha, relation, hshows⟩ := (adjacent_iff hT).1 h
  cases a with
  | plant | sensor | sensorReading | businessImpact =>
    cases hshows <;> exact back_of_one_way hT (fun _ => nofun) id
  | zone => exact zone_back_iff hT hsqrt hshows
  | worker => exact worker_back_iff hT hshows
  | equipment => exact equipment_back_iff hT hshows
  | permit => exact permit_back_iff hT hshows
  | riskAssessment => exact assessment_back_iff hT hsqrt hshows
  | triggeredAgent => exact agent_back_iff hT hsqrt hshows
  | recommendation => exact recommendation_back_iff hT hsqrt hshows
  | historicalIncident => exact incident_back_iff hT hshows
  | lessonLearned => exact lesson_back_iff hT hshows
  | forecast => exact forecast_back_iff hT hsqrt hshows
  | counterfactual => exact counterfactual_back_iff hT hsqrt hshows

end

end

/-- The root of a rational square. -/
def squareRoot (x : ℚ) : ℚ := Nat.sqrt x.num.toNat / Nat.sqrt x.den

def rootEnv : Env ℚ ℕ := { leakEnv with sqrt := squareRoot }

/-- The worker in zone 2, from both sides. -/
theorem worker_adjacent_comm : Adjacent rootEnv Runtime.plant (.zone 2) (.worker 9) ∧
    Reversible rootEnv Runtime.plant (.worker 9) (.zone 2) := by
  have hget : WorkerRepository.get Runtime.plant 9 = some ⟨9, "operator", some 2⟩ := rfl
  have hworker : Adjacent rootEnv Runtime.plant (.worker 9) (.zone 2) :=
    (adjacent_iff_shows plainText_separated (returns_worker 9) trivial).2
      ⟨_, .workerZone hget rfl (by decide)⟩
  have hsqrt : ∀ x, 0 ≤ rootEnv.sqrt x := fun x => div_nonneg (Nat.cast_nonneg _) (Nat.cast_nonneg _)
  exact ⟨(adjacent_comm_iff plainText_separated hsqrt hworker).2 trivial, trivial⟩

/-- A zone shows its sensors, and a sensor no zone. -/
theorem sensor_not_adjacent : Adjacent rootEnv Runtime.plant (.zone 1) (.sensor 7) ∧
    ¬Adjacent rootEnv Runtime.plant (.sensor 7) (.zone 1) := by
  constructor
  · exact (adjacent_iff_shows plainText_separated (returns_zone 1) trivial).2
      ⟨_, .zoneSensor (by decide)⟩
  · intro hback
    obtain ⟨-, -, _, hback⟩ := (adjacent_iff plainText_separated).1 hback
    cases hback

end KnowledgeGraph
