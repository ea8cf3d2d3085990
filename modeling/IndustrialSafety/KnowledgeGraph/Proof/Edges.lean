import IndustrialSafety.Frontend.Proof.Recommendations
import IndustrialSafety.KnowledgeGraph.Proof.Handlers
import IndustrialSafety.Lib.FirstOccurrence

/-!
# Repeated edges

A handler draws its edges in blocks, one for each relation and kind of neighbor, and no block repeats an
edge but for those of the similar incidents and of the rows that share an id (`getNeighbors_faithful`).
-/

namespace KnowledgeGraph

open Py Historical FirstOccurrence

/-! ## Blocks -/

/-- The edges of one relation to neighbors of one kind. -/
def block (key : EntityKind × String) (b : (RelationKind × EntityKind) × List String) :
    List (GraphEdge EntityKind) :=
  b.2.map fun id => ⟨key.1, key.2, b.1.1, b.1.2, id⟩

theorem block_nodup_iff (key : EntityKind × String) (b : (RelationKind × EntityKind) × List String) :
    (block key b).Nodup ↔ b.2.Nodup :=
  List.nodup_map_iff fun _ _ h => congrArg GraphEdge.targetId h

theorem blocks_nodup_iff (key : EntityKind × String)
    {blocks : List ((RelationKind × EntityKind) × List String)}
    (h : (blocks.map Prod.fst).Nodup) :
    (blocks.flatMap (block key)).Nodup ↔ ∀ b ∈ blocks, b.2.Nodup := by
  have hlabel : List.Forall₂ (fun label (l : List (GraphEdge EntityKind)) => ∀ e ∈ l,
      (e.relation, e.targetKind) = label) (blocks.map Prod.fst) (blocks.map (block key)) := by
    rw [List.forall₂_map_left_iff, List.forall₂_map_right_iff]
    refine List.forall₂_same.2 fun b _ e he => ?_
    obtain ⟨id, -, rfl⟩ := List.mem_map.1 he
    rfl
  rw [List.flatMap_def, nodup_flatten_of_label hlabel h, List.forall_mem_map]
  exact forall₂_congr fun b _ => block_nodup_iff key b

theorem blocks_pair_nodup {key : EntityKind × String} {label label' : RelationKind × EntityKind}
    {ids ids' : List String} (hne : label ≠ label') (h : ids.Nodup) (h' : ids'.Nodup) :
    (block key (label, ids) ++ block key (label', ids')).Nodup := by
  have hlabels : ([(label, ids), (label', ids')].map Prod.fst).Nodup := by simpa using hne
  have := (blocks_nodup_iff key hlabels).2 (by simpa using And.intro h h')
  simpa using this

theorem map_link {α : Type} (kind : EntityKind) (entityId : String) (relation : RelationKind)
    (target : EntityKind) {entity : α → GraphEntity EntityKind} (h : ∀ x, (entity x).kind = target)
    (xs : List α) : (xs.map fun x => link kind entityId relation (entity x)).map Prod.fst =
      block (kind, entityId) ((relation, target), xs.map fun x => (entity x).id) := by
  rw [block, List.map_map, List.map_map]
  refine List.map_congr_left fun x _ => ?_
  show (⟨kind, entityId, relation, (entity x).kind, (entity x).id⟩ : GraphEdge EntityKind) = _
  rw [h]
  rfl

theorem toList_map_nodup {α β : Type} (x : Option α) (f : α → β) : (x.toList.map f).Nodup := by
  cases x with
  | none => exact List.nodup_nil
  | some x => exact List.nodup_singleton _

section
variable {R Uuid : Type} [Field R] [LinearOrder R] [FloorRing R] [DecidableEq Uuid]
  {env : Env R Uuid} {db : Db R Uuid}

/-! ## The rows of the repositories -/

omit [Field R] [LinearOrder R] [FloorRing R] [DecidableEq Uuid] in
theorem filter_keys_nodup {α κ : Type} {key : α → κ} (t : Table key) (p : α → Bool) :
    ((t.rows.filter p).map key).Nodup :=
  t.nodup.sublist ((List.filter_sublist).map key)

omit [Field R] [LinearOrder R] [FloorRing R] in
theorem permits_nodup (zoneId : Option Uuid) (limit : Nat) :
    ((PermitRepository.listAll db zoneId none limit none none).map Permit.permitId).Nodup := by
  unfold PermitRepository.listAll
  refine List.Nodup.sublist ((List.take_sublist _ _).map _) ?_
  refine (((List.perm_insertionSort _ _).map Permit.permitId).nodup_iff).2 ?_
  exact filter_keys_nodup db.permits _

omit [Field R] [LinearOrder R] [FloorRing R] in
theorem adjacentZoneIds_nodup (z : Uuid) :
    (ZoneAdjacencyRepository.adjacentZoneIds db z).Nodup := by
  have hkeys := filter_keys_nodup db.zoneAdjacency (·.zoneId = z)
  have hpair : (db.zoneAdjacency.rows.filter (·.zoneId = z)).map
      (fun a => (a.zoneId, a.adjacentZoneId)) =
        (ZoneAdjacencyRepository.adjacentZoneIds db z).map fun z' => (z, z') := by
    rw [ZoneAdjacencyRepository.adjacentZoneIds, List.map_map]
    refine List.map_congr_left fun a ha => ?_
    have hzone : a.zoneId = z := by simpa using (List.mem_filter.1 ha).2
    exact congrArg (·, a.adjacentZoneId) hzone
  rw [hpair] at hkeys
  exact hkeys.of_map _

omit [Field R] [LinearOrder R] [FloorRing R] in
theorem adjacentZones_nodup (z : Uuid) : (((ZoneAdjacencyRepository.adjacentZoneIds db z).filterMap
    (ZoneRepository.get db)).map Zone.zoneId).Nodup := by
  have hids : ∀ ids : List Uuid, ((ids.filterMap (ZoneRepository.get db)).map Zone.zoneId).Sublist ids := by
    intro ids
    induction ids with
    | nil => exact .slnil
    | cons id ids ih =>
      rw [List.filterMap_cons]
      cases hget : ZoneRepository.get db id with
      | none => exact ih.cons id
      | some zone =>
        obtain rfl := zoneId_of_get hget
        exact ih.cons_cons zone.zoneId
  exact (adjacentZoneIds_nodup z).sublist (hids _)

omit [Field R] [LinearOrder R] [FloorRing R] [DecidableEq Uuid] in
theorem uuids_nodup_iff {α : Type} {key : α → Uuid} {xs : List α} (T : Text R Uuid) :
    (xs.map fun x => T.uuidStr (key x)).Nodup ↔ (xs.map key).Nodup := by
  rw [← List.nodup_map_iff T.uuidStr_injective, List.map_map]
  rfl

/-! ## The handlers -/

/-- What must hold of a node for its edges to be without repetition: no two of a zone's recent assessments
share an id, and the similar ticks of an assessment, or the matches of a forecast, are of pairwise
different incidents. -/
def Unrepeated (env : Env R Uuid) (db : Db R Uuid) : Node Uuid → Prop
  | .zone z => ((RiskAssessmentRepository.historyByZone db z recentAssessmentLimit none none).map
      RiskAssessment.assessmentId).Nodup
  | .riskAssessment i => ∀ a found, RiskAssessmentRepository.get db i = some a →
      searchDecks env db (fun index => findSimilarIncidents index env a none 5 none) = .ok found →
        (found.filterMap (findIncident ·.scenarioKey)).Nodup
  | .forecast z t => ∀ key a found, resolveScenarioKey env z ⟨t, 0⟩ = .ok (some key) →
      RiskAssessmentRepository.getByZoneAndTimestamp db z t = some a →
      searchDecks env db (fun index => Foresight.operationalMatches env.sqrt index z key
        ((RiskAssessmentRepository.historyByZone db z (recentAssessmentLimit - 1)
          (some t) none).reverse ++ [a]) recentAssessmentLimit none 5) = .ok found →
        (found.filterMap (findIncident ·.trajectory.scenarioKey)).Nodup
  | _ => True

/-- An answer repeats an edge iff the node its id is read as has hits in common. -/
def Faithful (env : Env R Uuid) (db : Db R Uuid) (kind : EntityKind) (entityId : String)
    (l : List Found) : Prop :=
  (l.map Prod.fst).Nodup ↔
    ∀ a, readId env.text kind entityId = .ok (some a) → Unrepeated env db a

theorem faithful_of_node {kind : EntityKind} {entityId : String} {a : Node Uuid} {l : List Found}
    (hread : readId env.text kind entityId = .ok (some a))
    (h : (l.map Prod.fst).Nodup ↔ Unrepeated env db a) : Faithful env db kind entityId l := by
  refine h.trans ⟨fun ha a' hread' => ?_, fun ha => ha a hread⟩
  cases hread.symm.trans hread'
  exact ha

theorem faithful_of_none {kind : EntityKind} {entityId : String}
    (hread : readId env.text kind entityId = .ok none) : Faithful env db kind entityId [] :=
  iff_of_true List.nodup_nil fun _ hread' => nomatch hread.symm.trans hread'

theorem neighborsOfPlant_faithful (entityId : String) :
    Faithful env db .plant entityId (neighborsOfPlant env db) := by
  refine faithful_of_node (a := .plant) rfl (iff_of_true ?_ trivial)
  rw [neighborsOfPlant, map_link .plant plantId .contains .zone (fun _ => rfl), block_nodup_iff]
  exact (uuids_nodup_iff env.text).2 db.zones.nodup

theorem neighborsOfZone_faithful {entityId : String} {l : List Found}
    (h : neighborsOfZone env db entityId = .ok l) : Faithful env db .zone entityId l := by
  obtain ⟨z, hz, h⟩ := Except.bind_eq_ok.1 h
  cases h
  refine faithful_of_node (a := .zone z) (by rw [readId, hz]; rfl) ?_
  let ids {α : Type} (key : α → Uuid) (xs : List α) := xs.map fun x => env.text.uuidStr (key x)
  let blocks : List ((RelationKind × EntityKind) × List String) := [
    ((.contains, .sensor), ids Sensor.sensorId (SensorRepository.listByZone db z)),
    ((.contains, .worker), ids Worker.workerId (WorkerRepository.listByCurrentZone db z)),
    ((.contains, .equipment), ids Equipment.equipmentId (EquipmentRepository.listByZone db z)),
    ((.contains, .permit),
      ids Permit.permitId (PermitRepository.listAll db (some z) none 50 none none)),
    ((.adjacentTo, .zone), ids Zone.zoneId
      ((ZoneAdjacencyRepository.adjacentZoneIds db z).filterMap (ZoneRepository.get db))),
    ((.assessedBy, .riskAssessment), ids RiskAssessment.assessmentId
      (RiskAssessmentRepository.historyByZone db z recentAssessmentLimit none none))]
  have hblocks : (blocks.flatMap (block (.zone, entityId))).Nodup ↔ Unrepeated env db (.zone z) := by
    rw [blocks_nodup_iff _ (by simp only [blocks, List.map_cons, List.map_nil]; decide)]
    simp only [blocks, ids, List.forall_mem_cons, uuids_nodup_iff]
    refine ⟨fun h => h.2.2.2.2.2.1, fun h => ⟨filter_keys_nodup db.sensors _,
      filter_keys_nodup db.workers _, filter_keys_nodup db.equipment _, permits_nodup (some z) 50,
      adjacentZones_nodup z, h, fun _ h => by cases h⟩⟩
  refine Iff.trans ?_ hblocks
  simp only [List.map_append]
  rw [map_link .zone entityId .contains .sensor (fun _ => rfl),
    map_link .zone entityId .contains .worker (fun _ => rfl),
    map_link .zone entityId .contains .equipment (fun _ => rfl),
    map_link .zone entityId .contains .permit (fun _ => rfl),
    map_link .zone entityId .adjacentTo .zone (fun _ => rfl),
    map_link .zone entityId .assessedBy .riskAssessment (fun _ => rfl)]
  simp only [blocks, List.flatMap_cons, List.flatMap_nil, List.append_nil, List.append_assoc]
  rfl

theorem unrepeated_of_kind {a : Node Uuid}
    (h : a.kind ∉ [EntityKind.zone, .riskAssessment, .forecast]) : Unrepeated env db a := by
  cases a
  case zone | riskAssessment | forecast => exact absurd (by simp [Node.kind]) h
  all_goals trivial

/-- The nodes of most kinds have no repeated edge. -/
theorem faithful_of_kind {kind : EntityKind} {entityId : String} {l : List Found}
    (hkind : kind ∉ [EntityKind.zone, .riskAssessment, .forecast]) (h : (l.map Prod.fst).Nodup) :
    Faithful env db kind entityId l :=
  iff_of_true h fun _ hread => unrepeated_of_kind (readId_kind env.text hread ▸ hkind)

omit [Field R] [LinearOrder R] [FloorRing R] [DecidableEq Uuid] in
/-- The edge to a row that may be missing. -/
theorem link_toList_nodup {α : Type} (kind : EntityKind) (entityId : String) (relation : RelationKind)
    (entity : α → GraphEntity EntityKind) (x : Option α) :
    ((x.toList.map fun x => link kind entityId relation (entity x)).map Prod.fst).Nodup := by
  rw [List.map_map]
  exact toList_map_nodup x _

theorem neighborsOfSensor_faithful {entityId : String} {l : List Found}
    (h : neighborsOfSensor env db entityId = .ok l) : Faithful env db .sensor entityId l := by
  refine faithful_of_kind (by decide) ?_
  obtain ⟨s, -, h⟩ := Except.bind_eq_ok.1 h
  cases hget : SensorRepository.get db s with
  | none =>
    rw [hget] at h
    cases h
    exact List.nodup_nil
  | some sensor =>
    rw [hget] at h
    cases h
    exact link_toList_nodup .sensor entityId .produced _ _

theorem neighborsOfEquipment_faithful {entityId : String} {l : List Found}
    (h : neighborsOfEquipment env db entityId = .ok l) : Faithful env db .equipment entityId l := by
  refine faithful_of_kind (by decide) ?_
  obtain ⟨e, -, h⟩ := Except.bind_eq_ok.1 h
  cases hget : EquipmentRepository.get db e with
  | none =>
    rw [hget] at h
    cases h
    exact List.nodup_nil
  | some equipment =>
    rw [hget] at h
    cases h
    exact link_toList_nodup .equipment entityId .contains _ _

omit [FloorRing R] in
theorem assessmentOfTick_nodup {kind : EntityKind} {entityId zoneIdStr timestampStr : String}
    {relation : RelationKind} {l : List Found}
    (h : assessmentOfTick env db kind entityId relation zoneIdStr timestampStr = .ok l) :
    (l.map Prod.fst).Nodup := by
  obtain ⟨z, -, h⟩ := Except.bind_eq_ok.1 h
  obtain ⟨t, -, h⟩ := Except.bind_eq_ok.1 h
  cases h
  exact link_toList_nodup kind entityId relation _ _

theorem neighborsOfCounterfactual_faithful {entityId : String} {l : List Found}
    (h : neighborsOfCounterfactual env db entityId = .ok l) :
    Faithful env db .counterfactual entityId l := by
  refine faithful_of_kind (by decide) ?_
  unfold neighborsOfCounterfactual at h
  split at h
  · cases h
    exact List.nodup_nil
  · exact assessmentOfTick_nodup h

theorem neighborsOfBusinessImpact_faithful {entityId : String} {l : List Found}
    (h : neighborsOfBusinessImpact env db entityId = .ok l) :
    Faithful env db .businessImpact entityId l := by
  refine faithful_of_kind (by decide) ?_
  unfold neighborsOfBusinessImpact at h
  split at h
  · cases h
    exact List.nodup_nil
  · exact assessmentOfTick_nodup h

theorem neighborsOfPermit_faithful {entityId : String} {l : List Found}
    (h : neighborsOfPermit env db entityId = .ok l) : Faithful env db .permit entityId l := by
  refine faithful_of_kind (by decide) ?_
  obtain ⟨p, -, h⟩ := Except.bind_eq_ok.1 h
  cases hget : PermitRepository.get db p with
  | none =>
    rw [hget] at h
    cases h
    exact List.nodup_nil
  | some permit =>
    rw [hget] at h
    cases h
    rw [List.map_append, map_link .permit entityId .contains .zone (fun _ => rfl),
      map_link .permit entityId .authorizes .worker (fun _ => rfl)]
    exact blocks_pair_nodup (by decide) (toList_map_nodup _ _) (toList_map_nodup _ _)

theorem neighborsOfWorker_faithful {entityId : String} {l : List Found}
    (h : neighborsOfWorker env db entityId = .ok l) : Faithful env db .worker entityId l := by
  refine faithful_of_kind (by decide) ?_
  obtain ⟨w, -, h⟩ := Except.bind_eq_ok.1 h
  cases hget : WorkerRepository.get db w with
  | none =>
    rw [hget] at h
    cases h
    exact List.nodup_nil
  | some worker =>
    rw [hget] at h
    cases hzone : worker.currentZoneId with
    | none =>
      simp only [hzone] at h
      cases h
      exact List.nodup_nil
    | some z =>
      simp only [hzone] at h
      cases h
      rw [List.map_append, map_link .worker entityId .contains .zone (fun _ => rfl),
        map_link .worker entityId .authorizes .permit (fun _ => rfl)]
      refine blocks_pair_nodup (by decide) (toList_map_nodup _ _) ?_
      exact (uuids_nodup_iff env.text).2
        ((permits_nodup (some z) 100).sublist (List.filter_sublist.map Permit.permitId))

theorem neighborsOfTriggeredAgent_faithful {entityId : String} {l : List Found}
    (h : neighborsOfTriggeredAgent env db entityId = .ok l) :
    Faithful env db .triggeredAgent entityId l := by
  refine faithful_of_kind (by decide) ?_
  unfold neighborsOfTriggeredAgent at h
  split at h
  · cases h
    exact List.nodup_nil
  rename_i idStr agentName hparse
  obtain ⟨i, -, h⟩ := Except.bind_eq_ok.1 h
  cases hget : RiskAssessmentRepository.get db i with
  | none =>
    rw [hget] at h
    cases h
    exact List.nodup_nil
  | some a =>
    rw [hget] at h
    cases h
    have hsensors : ((if agentName = "gas_risk" then SensorRepository.listByZone db a.zoneId
        else []).map Sensor.sensorId).Nodup := by
      split
      · exact filter_keys_nodup db.sensors _
      · exact List.nodup_nil
    rw [List.map_cons, map_link .triggeredAgent entityId .evidence .sensor (fun _ => rfl)]
    have hne : (RelationKind.triggered, EntityKind.riskAssessment) ≠ (.evidence, .sensor) := by decide
    show (block (.triggeredAgent, entityId) ((.triggered, .riskAssessment),
      [env.text.uuidStr a.assessmentId]) ++ _).Nodup
    exact blocks_pair_nodup hne (List.nodup_singleton _) ((uuids_nodup_iff env.text).2 hsensors)

theorem neighborsOfRecommendation_faithful {entityId : String} {l : List Found}
    (h : neighborsOfRecommendation env db entityId = .ok l) :
    Faithful env db .recommendation entityId l := by
  refine faithful_of_kind (by decide) ?_
  unfold neighborsOfRecommendation at h
  split at h
  · cases h
    exact List.nodup_nil
  obtain ⟨i, -, h⟩ := Except.bind_eq_ok.1 h
  cases hget : RiskAssessmentRepository.get db i with
  | none =>
    rw [hget] at h
    cases h
    exact List.nodup_nil
  | some a =>
    rw [hget] at h
    cases h
    rw [List.map_cons, map_link .recommendation entityId .addresses .triggeredAgent (fun _ => rfl)]
    have hne : (RelationKind.generated, EntityKind.riskAssessment) ≠ (.addresses, .triggeredAgent) := by
      decide
    show (block (.recommendation, entityId) ((.generated, .riskAssessment),
      [env.text.uuidStr a.assessmentId]) ++ _).Nodup
    exact blocks_pair_nodup hne (List.nodup_singleton _) (toList_map_nodup _ _)

/-! Incidents. -/

/-- Different incidents have different keys. -/
theorem incidents_nodup_iff {incidents : List HistoricalIncident}
    (h : ∀ i ∈ incidents, ∃ deck ∈ historicalDecks, i ∈ deck.incidents) :
    (incidents.map HistoricalIncident.scenarioKey).Nodup ↔ incidents.Nodup := by
  refine ⟨fun hkeys => hkeys.of_map _, fun hincidents => hincidents.map_on fun i hi i' hi' hkey => ?_⟩
  obtain ⟨deck, hdeck, hmem⟩ := h i hi
  obtain ⟨deck', hdeck', hmem'⟩ := h i' hi'
  exact (incident_unique hdeck hmem hdeck' hmem' hkey).2

theorem found_nodup_iff {α : Type} (found : List α) (key : α → String) :
    ((found.filterMap (findIncident <| key ·)).map HistoricalIncident.scenarioKey).Nodup ↔
      (found.filterMap (findIncident <| key ·)).Nodup := by
  refine incidents_nodup_iff fun i hi => ?_
  obtain ⟨x, -, hfind⟩ := List.mem_filterMap.1 hi
  obtain ⟨deck, hdeck, hmem, -⟩ := findIncident_eq_some hfind
  exact ⟨deck, hdeck, hmem⟩

/-- The agent contributions of an assessment are a dictionary. -/
def Dictionaries (db : Db R Uuid) : Prop :=
  ∀ a ∈ db.riskAssessments,
    (a.justification.agentContributions.map Justification.Contribution.agentName).Nodup

theorem joinId_nodup {α : Type} (a : String) {key : α → String} {xs : List α}
    (h : (xs.map key).Nodup) : (xs.map fun x => joinId a (key x)).Nodup := by
  have hinj : Function.Injective (joinId a) := by
    intro b b' heq
    rw [← String.toList_inj, toList_joinId, toList_joinId] at heq
    exact String.toList_inj.1 (List.cons.inj (List.append_cancel_left heq)).2
  have := h.map hinj
  rwa [List.map_map] at this

theorem neighborsOfRiskAssessment_faithful (hdict : Dictionaries db) {entityId : String}
    {l : List Found} (h : neighborsOfRiskAssessment env db entityId = .ok l) :
    Faithful env db .riskAssessment entityId l := by
  obtain ⟨i, hi, h⟩ := Except.bind_eq_ok.1 h
  refine faithful_of_node (a := .riskAssessment i) (by rw [readId, hi]; rfl) ?_
  cases hget : RiskAssessmentRepository.get db i with
  | none =>
    rw [hget] at h
    cases h
    exact iff_of_true List.nodup_nil fun a found ha => by cases hget.symm.trans ha
  | some a =>
    rw [hget] at h
    obtain ⟨found, hfound, h⟩ := Except.bind_eq_ok.1 h
    obtain ⟨scenarioKey, hkey, h⟩ := Except.bind_eq_ok.1 h
    obtain ⟨entity, hentity, h⟩ := Except.bind_eq_ok.1 h
    obtain rfl := buildCounterfactual_eq hentity
    cases h
    let blocks : List ((RelationKind × EntityKind) × List String) := [
      ((.forZone, .zone),
        (ZoneRepository.get db a.zoneId).toList.map fun zone => env.text.uuidStr zone.zoneId),
      ((.triggered, .triggeredAgent), (a.justification.agentContributions.filter (0 < ·.risk)).map
        fun c => joinId (env.text.uuidStr a.assessmentId) c.agentName),
      ((.generated, .recommendation), (recommendationTemplates a).map
        fun template => joinId (env.text.uuidStr a.assessmentId) template.id),
      ((.matched, .historicalIncident),
        (found.filterMap (findIncident ·.scenarioKey)).map HistoricalIncident.scenarioKey),
      ((.projectsFor, .forecast),
        scenarioKey.toList.map fun _ => forecastId env.text a.zoneId ⟨a.timestamp, 0⟩),
      ((.references, .counterfactual), [counterfactualId env.text a.zoneId ⟨a.timestamp, 0⟩])]
    have hedges : (blocks.flatMap (block (.riskAssessment, entityId))).Nodup ↔
        (found.filterMap (findIncident ·.scenarioKey)).Nodup := by
      rw [blocks_nodup_iff _ (by simp only [blocks, List.map_cons, List.map_nil]; decide)]
      simp only [blocks, List.forall_mem_cons, found_nodup_iff found]
      have hagents := hdict a (List.mem_filter.1 (List.mem_of_mem_head? hget)).1
      exact ⟨fun h => h.2.2.2.1, fun h => ⟨toList_map_nodup _ _,
        joinId_nodup _ (hagents.sublist (List.filter_sublist.map _)),
        joinId_nodup _ (recommendationTemplatesFor_nodup _ _), h, toList_map_nodup _ _,
        List.nodup_singleton _, fun _ h => by cases h⟩⟩
    have hunrepeated : Unrepeated env db (.riskAssessment i) ↔
        (found.filterMap (findIncident ·.scenarioKey)).Nodup := by
      refine ⟨fun h => h a found hget hfound, fun h a' found' hget' hfound' => ?_⟩
      cases hget.symm.trans hget'
      cases hfound.symm.trans hfound'
      exact h
    refine Iff.trans ?_ (hedges.trans hunrepeated.symm)
    simp only [List.map_append]
    rw [map_link .riskAssessment entityId .forZone .zone (fun _ => rfl),
      map_link .riskAssessment entityId .triggered .triggeredAgent (fun _ => rfl),
      map_link .riskAssessment entityId .generated .recommendation (fun _ => rfl),
      map_link .riskAssessment entityId .matched .historicalIncident (fun _ => rfl),
      map_link .riskAssessment entityId .projectsFor .forecast (fun _ => rfl)]
    simp only [blocks, List.flatMap_cons, List.flatMap_nil, List.append_nil, List.append_assoc]
    rfl

/-- The loop over the incidents of all decks: the edges to each are its own. -/
theorem scan_nodup {f : HistoricalDeck → HistoricalIncident → Result (List Found)}
    {ls : List (List (List Found))}
    (h : historicalDecks.mapM (fun deck => deck.incidents.mapM (f deck)) = .ok ls)
    (hf : ∀ deck incident l, f deck incident = .ok l →
      (l.map Prod.fst).Nodup ∧ ∀ p ∈ l, p.1.targetId = incident.scenarioKey) :
    (ls.flatten.flatten.map Prod.fst).Nodup := by
  have hsteps : List.Forall₂ (fun k (l : List Found) => (l.map Prod.fst).Nodup ∧
      ∀ e ∈ l.map Prod.fst, GraphEdge.targetId e = k)
      ((historicalDecks.flatMap HistoricalDeck.incidents).map HistoricalIncident.scenarioKey)
      ls.flatten := by
    generalize historicalDecks = decks at h
    rw [Except.mapM_eq_ok] at h
    induction h with
    | nil => exact .nil
    | cons hdeck _ ih =>
      rw [List.flatMap_cons, List.map_append, List.flatten_cons]
      refine List.rel_append ?_ ih
      rw [List.forall₂_map_left_iff]
      refine (Except.mapM_eq_ok.1 hdeck).imp fun incident l hl => ?_
      obtain ⟨hnodup, htarget⟩ := hf _ incident l hl
      exact ⟨hnodup, List.forall_mem_map.2 htarget⟩
  have hkeys : ((historicalDecks.flatMap HistoricalDeck.incidents).map
      HistoricalIncident.scenarioKey).Nodup := by decide
  have hlabels : List.Forall₂ (fun k (l : List (GraphEdge EntityKind)) => ∀ e ∈ l, e.targetId = k)
      ((historicalDecks.flatMap HistoricalDeck.incidents).map HistoricalIncident.scenarioKey)
      (ls.flatten.map (List.map Prod.fst)) := by
    rw [List.forall₂_map_right_iff]
    exact hsteps.imp fun _ _ h => h.2
  rw [List.map_flatten, nodup_flatten_of_label hlabels hkeys, List.forall_mem_map]
  intro l hl
  obtain ⟨_, -, hnodup, -⟩ := hsteps.exists_of_mem_right hl
  exact hnodup

theorem commonIncident_nodup {k : String} {rules : List String} {outcome : Tier}
    {deck : HistoricalDeck} {other : HistoricalIncident} {l : List Found}
    (h : commonIncident env db k rules outcome deck other = .ok l) :
    (l.map Prod.fst).Nodup ∧ ∀ p ∈ l, p.1.targetId = other.scenarioKey ∧
      p.1.targetKind = .historicalIncident := by
  unfold commonIncident at h
  split at h
  · cases h
    exact ⟨List.nodup_nil, fun _ hp => absurd hp List.not_mem_nil⟩
  obtain ⟨ticks, -, h⟩ := Except.bind_eq_ok.1 h
  split at h
  · cases h
    exact ⟨List.nodup_nil, fun _ hp => absurd hp List.not_mem_nil⟩
  obtain ⟨otherOutcome, -, h⟩ := Except.bind_eq_ok.1 h
  obtain ⟨_, -, h⟩ := Except.bind_eq_ok.1 h
  cases h
  split <;> split <;> simp [link, buildHistoricalIncidentEntity]

theorem neighborsOfLesson_faithful {rule : String} {l : List Found}
    (h : neighborsOfLesson env db rule = .ok l) : Faithful env db .lessonLearned rule l := by
  refine faithful_of_kind (by decide) ?_
  obtain ⟨ls, hscan, h⟩ := Except.bind_eq_ok.1 h
  cases h
  refine scan_nodup hscan fun deck incident l hl => ?_
  obtain ⟨ticks, -, hl⟩ := Except.bind_eq_ok.1 hl
  split at hl
  · obtain ⟨_, -, hl⟩ := Except.bind_eq_ok.1 hl
    cases hl
    exact ⟨List.nodup_singleton _, by simp [link, buildHistoricalIncidentEntity]⟩
  · cases hl
    exact ⟨List.nodup_nil, fun _ hp => absurd hp List.not_mem_nil⟩

theorem neighborsOfHistoricalIncident_faithful {k : String} {l : List Found}
    (h : neighborsOfHistoricalIncident env db k = .ok l) :
    Faithful env db .historicalIncident k l := by
  refine faithful_of_kind (by decide) ?_
  unfold neighborsOfHistoricalIncident at h
  split at h
  · cases h
    exact List.nodup_nil
  split at h
  · cases h
    exact List.nodup_nil
  obtain ⟨ticks, -, h⟩ := Except.bind_eq_ok.1 h
  split at h
  · cases h
    exact List.nodup_nil
  obtain ⟨outcome, -, h⟩ := Except.bind_eq_ok.1 h
  obtain ⟨common, hcommon, h⟩ := Except.bind_eq_ok.1 h
  cases h
  have hlessons : ((lessonsForRules (incidentRules ticks)).map Lesson.rule).Nodup := by
    have hrule : Lesson.rule ∘ lessonForRule = id := rfl
    rw [lessonsForRules, List.map_map, hrule, List.map_id]
    exact eraseDups_nodup _
  rw [List.map_append, map_link .historicalIncident k .learnedFrom .lessonLearned (fun _ => rfl)]
  refine List.Nodup.append ((block_nodup_iff _ _).2 hlessons)
    (scan_nodup hcommon fun deck other l hl => ?_) ?_
  · obtain ⟨hnodup, htarget⟩ := commonIncident_nodup hl
    exact ⟨hnodup, fun p hp => (htarget p hp).1⟩
  · intro e he he'
    obtain ⟨id, -, rfl⟩ := List.mem_map.1 he
    obtain ⟨p, hp, heq⟩ := List.mem_map.1 he'
    obtain ⟨deck, -, other, -, l, hl, hp⟩ := (mem_scan hcommon).1 hp
    have hkind := ((commonIncident_nodup hl).2 p hp).2
    rw [heq] at hkind
    cases hkind

/-! Forecasts. -/

/-- The edge of an incident that supports a forecast. -/
def supportEdge (entityId scenarioKey : String) : GraphEdge EntityKind :=
  ⟨.historicalIncident, scenarioKey, .supports, .forecast, entityId⟩

omit [DecidableEq Uuid] in
theorem supporting_edges {entityId : String} {found : List (Foresight.TrajectoryMatch R Uuid)}
    {supporting : List (List Found)}
    (h : found.mapM (supportingIncident env entityId ·.trajectory.scenarioKey) = .ok supporting) :
    supporting.flatten.map Prod.fst =
      ((found.filterMap (findIncident ·.trajectory.scenarioKey)).map
        HistoricalIncident.scenarioKey).map (supportEdge entityId) := by
  rw [Except.mapM_eq_ok] at h
  induction h with
  | nil => rfl
  | @cons m l found supporting hl _ ih =>
    rw [List.flatten_cons, List.map_append, ih]
    unfold supportingIncident at hl
    cases hfind : findIncident m.trajectory.scenarioKey with
    | none =>
      rw [hfind] at hl
      cases hl
      simp only [List.filterMap_cons, hfind]
      rfl
    | some incident =>
      rw [hfind] at hl
      obtain ⟨_, -, hl⟩ := Except.bind_eq_ok.1 hl
      cases hl
      simp only [List.filterMap_cons, hfind]
      rfl

omit [DecidableEq Uuid] in
theorem supporting_nodup_iff {entityId : String} {found : List (Foresight.TrajectoryMatch R Uuid)}
    {supporting : List (List Found)}
    (h : found.mapM (supportingIncident env entityId ·.trajectory.scenarioKey) = .ok supporting) :
    (supporting.flatten.map Prod.fst).Nodup ↔
      (found.filterMap (findIncident ·.trajectory.scenarioKey)).Nodup := by
  rw [supporting_edges h, List.nodup_map_iff fun _ _ heq => congrArg GraphEdge.sourceId heq]
  exact found_nodup_iff found _

theorem neighborsOfForecast_faithful {entityId : String} {l : List Found}
    (h : neighborsOfForecast env db entityId = .ok l) : Faithful env db .forecast entityId l := by
  unfold neighborsOfForecast at h
  cases hparse : parseZoneTimestampId entityId with
  | none =>
    rw [hparse] at h
    cases h
    exact faithful_of_none (by rw [readId, hparse]; rfl)
  | some parts =>
    rw [hparse] at h
    obtain ⟨z, hz, h⟩ := Except.bind_eq_ok.1 h
    obtain ⟨t, ht, h⟩ := Except.bind_eq_ok.1 h
    have hread : readId env.text .forecast entityId = .ok (some (.forecast z t.instant)) := by
      simp only [readId, hparse, hz, ht]
      rfl
    refine faithful_of_node hread ?_
    obtain ⟨_, -, h⟩ := Except.bind_eq_ok.1 h
    obtain ⟨scenarioKey, hkey, h⟩ := Except.bind_eq_ok.1 h
    change resolveScenarioKey env z ⟨t.instant, 0⟩ = _ at hkey
    cases scenarioKey with
    | none =>
      cases h
      exact iff_of_true List.nodup_nil fun key a found hkey' => by cases hkey.symm.trans hkey'
    | some key =>
      cases hget : RiskAssessmentRepository.getByZoneAndTimestamp db z t.instant with
      | none =>
        simp only [hget] at h
        cases h
        exact iff_of_true List.nodup_nil fun key a found _ hget' => by cases hget.symm.trans hget'
      | some a =>
        simp only [hget] at h
        obtain ⟨found, hfound, h⟩ := Except.bind_eq_ok.1 h
        obtain ⟨supporting, hsupporting, h⟩ := Except.bind_eq_ok.1 h
        cases h
        have hunrepeated : Unrepeated env db (.forecast z t.instant) ↔
            (found.filterMap (findIncident ·.trajectory.scenarioKey)).Nodup := by
          refine ⟨fun h => h key a found hkey hget hfound,
            fun h key' a' found' hkey' hget' hfound' => ?_⟩
          cases hkey.symm.trans hkey'
          cases hget.symm.trans hget'
          cases hfound.symm.trans hfound'
          exact h
        refine Iff.trans ?_ ((supporting_nodup_iff hsupporting).trans hunrepeated.symm)
        have hne : (RelationKind.projectsFor, EntityKind.riskAssessment) ≠
          (.coOccursWith, .recommendation) := by decide
        rw [List.map_append, List.map_cons,
          map_link .forecast entityId .coOccursWith .recommendation (fun _ => rfl), List.nodup_append]
        have hown : (block (.forecast, entityId) ((.projectsFor, .riskAssessment),
            [env.text.uuidStr a.assessmentId]) ++ block (.forecast, entityId)
              ((.coOccursWith, .recommendation), (recommendationTemplates a).map fun template =>
                joinId (env.text.uuidStr a.assessmentId) template.id)).Nodup :=
          blocks_pair_nodup hne (List.nodup_singleton _)
            (joinId_nodup _ (recommendationTemplatesFor_nodup _ _))
        refine ⟨fun h => h.2.1, fun h => ⟨hown, h, fun e he e' he' heq => ?_⟩⟩
        rw [supporting_edges hsupporting] at he'
        obtain ⟨k, -, rfl⟩ := List.mem_map.1 he'
        subst heq
        rcases List.mem_cons.1 he with he | he
        · cases he
        · obtain ⟨id, -, he⟩ := List.mem_map.1 he
          cases he

/-- **An answer repeats an edge** iff rows or hits of its node have an id, or an incident, in common. -/
theorem getNeighbors_faithful (hdict : Dictionaries db) {kind : EntityKind} {entityId : String}
    {l : List Found} (h : getNeighbors env db kind entityId = .ok l) :
    Faithful env db kind entityId l := by
  cases kind with
  | plant =>
    cases h
    exact neighborsOfPlant_faithful entityId
  | zone => exact neighborsOfZone_faithful h
  | sensor => exact neighborsOfSensor_faithful h
  | sensorReading =>
    cases h
    exact faithful_of_none rfl
  | worker => exact neighborsOfWorker_faithful h
  | equipment => exact neighborsOfEquipment_faithful h
  | permit => exact neighborsOfPermit_faithful h
  | riskAssessment => exact neighborsOfRiskAssessment_faithful hdict h
  | triggeredAgent => exact neighborsOfTriggeredAgent_faithful h
  | recommendation => exact neighborsOfRecommendation_faithful h
  | historicalIncident => exact neighborsOfHistoricalIncident_faithful h
  | forecast => exact neighborsOfForecast_faithful h
  | lessonLearned => exact neighborsOfLesson_faithful h
  | counterfactual => exact neighborsOfCounterfactual_faithful h
  | businessImpact => exact neighborsOfBusinessImpact_faithful h

end

end KnowledgeGraph
