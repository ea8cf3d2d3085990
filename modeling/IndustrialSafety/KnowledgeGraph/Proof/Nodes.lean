import IndustrialSafety.KnowledgeGraph.Service

/-!
# Nodes as values

`Node`: a node of the graph without its id text. `Node.entity` is what the builders render, with the
canonical id; `readId` is the node a lookup takes an id for. A canonical id is read back
(`readId_id`) unless one of its parts has a bar, and no two nodes share one (`id_injective`).
-/

namespace KnowledgeGraph

open Py

/-- A tick is a zone and an instant. -/
inductive Node (Uuid : Type)
  | plant
  | zone (zoneId : Uuid)
  | sensor (sensorId : Uuid)
  | sensorReading (readingId : Uuid)
  | worker (workerId : Uuid)
  | equipment (equipmentId : Uuid)
  | permit (permitId : Uuid)
  | riskAssessment (assessmentId : Uuid)
  | triggeredAgent (assessmentId : Uuid) (agentName : String)
  | recommendation (assessmentId : Uuid) (recommendationKey : String)
  | historicalIncident (scenarioKey : String)
  | forecast (zoneId : Uuid) (timestamp : Instant)
  | lessonLearned (rule : String)
  | counterfactual (zoneId : Uuid) (timestamp : Instant)
  | businessImpact (subKind : String) (zoneId : Uuid) (timestamp : Instant)

/-- No text of a UUID and no ISO text has the separator of composite ids. -/
structure Separated {R Uuid : Type} (T : Text R Uuid) : Prop where
  uuidStr : ∀ u, idSeparator ∉ (T.uuidStr u).toList
  isoformat : ∀ d, idSeparator ∉ (T.isoformat d).toList

/-! ## Composite ids -/

theorem toList_joinId (a b : String) :
    (joinId a b).toList = a.toList ++ idSeparator :: b.toList := by
  simp [joinId]

theorem splitId_of_not_mem {s : String} (h : idSeparator ∉ s.toList) : splitId s = [s] := by
  rw [splitId, List.splitOn_eq_singleton h, List.map_singleton, String.ofList_toList]

theorem splitId_joinId {a : String} (h : idSeparator ∉ a.toList) (b : String) :
    splitId (joinId a b) = a :: splitId b := by
  rw [splitId, toList_joinId, List.splitOn_append_cons_self_of_not_mem h, List.map_cons,
    String.ofList_toList, splitId]

theorem length_splitId_joinId (a b : String) :
    (splitId (joinId a b)).length = (splitId a).length + (splitId b).length := by
  rw [splitId, toList_joinId, List.splitOn_append_cons_self, List.length_map, List.length_append,
    splitId, splitId, List.length_map, List.length_map]

theorem one_le_length_splitId (s : String) : 1 ≤ (splitId s).length := by
  rw [splitId, List.length_map]
  exact List.length_pos_of_ne_nil (List.splitOn_ne_nil idSeparator s.toList)

theorem two_le_length_splitId {s : String} (h : idSeparator ∈ s.toList) :
    2 ≤ (splitId s).length := by
  obtain ⟨xs, ys, hs⟩ := List.append_of_mem h
  have hjoin : s = joinId (String.ofList xs) (String.ofList ys) := by
    rw [← String.toList_inj, toList_joinId, String.toList_ofList, String.toList_ofList, hs]
  rw [hjoin, length_splitId_joinId]
  have h1 := one_le_length_splitId (String.ofList xs)
  have h2 := one_le_length_splitId (String.ofList ys)
  omega

theorem parsePair_joinId {a b : String} (ha : idSeparator ∉ a.toList)
    (hb : idSeparator ∉ b.toList) : parsePair (joinId a b) = some (a, b) := by
  rw [parsePair, splitId_joinId ha, splitId_of_not_mem hb]

theorem parsePair_joinId_of_mem (a : String) {b : String} (hb : idSeparator ∈ b.toList) :
    parsePair (joinId a b) = none := by
  have hlen := length_splitId_joinId a b
  have h1 := one_le_length_splitId a
  have h2 := two_le_length_splitId hb
  unfold parsePair
  split
  · rename_i heq
    rw [heq] at hlen
    simp only [List.length_cons, List.length_nil] at hlen
    omega
  · rfl

theorem parseBusinessImpactId_joinId {a b c : String} (ha : idSeparator ∉ a.toList)
    (hb : idSeparator ∉ b.toList) (hc : idSeparator ∉ c.toList) :
    parseBusinessImpactId (joinId a (joinId b c)) = some (a, b, c) := by
  rw [parseBusinessImpactId, splitId_joinId ha, splitId_joinId hb, splitId_of_not_mem hc]

theorem parseBusinessImpactId_joinId_of_mem {a : String} (ha : idSeparator ∈ a.toList)
    (b c : String) : parseBusinessImpactId (joinId a (joinId b c)) = none := by
  have hlen := length_splitId_joinId a (joinId b c)
  rw [length_splitId_joinId b c] at hlen
  have h1 := two_le_length_splitId ha
  have h2 := one_le_length_splitId b
  have h3 := one_le_length_splitId c
  unfold parseBusinessImpactId
  split
  · rename_i heq
    rw [heq] at hlen
    simp only [List.length_cons, List.length_nil] at hlen
    omega
  · rfl

theorem joinId_assoc (a b c : String) : joinId (joinId a b) c = joinId a (joinId b c) := by
  simp only [joinId, String.append_assoc]

/-- A separator that the first parts have not splits an id in one way. -/
theorem joinId_inj {a a' b b' : String} (ha : idSeparator ∉ a.toList)
    (ha' : idSeparator ∉ a'.toList) : joinId a b = joinId a' b' ↔ a = a' ∧ b = b' := by
  refine ⟨fun h => ?_, fun ⟨h1, h2⟩ => by rw [h1, h2]⟩
  rw [← String.toList_inj, toList_joinId, toList_joinId] at h
  obtain ⟨h1, h2⟩ := split_injective ha ha' h
  exact ⟨String.toList_inj.1 h1, String.toList_inj.1 h2⟩

/-- And one that the last parts have not. -/
theorem joinId_inj_right {a a' b b' : String} (hb : idSeparator ∉ b.toList)
    (hb' : idSeparator ∉ b'.toList) : joinId a b = joinId a' b' ↔ a = a' ∧ b = b' := by
  refine ⟨fun h => ?_, fun ⟨h1, h2⟩ => by rw [h1, h2]⟩
  rw [← String.toList_inj, toList_joinId, toList_joinId] at h
  obtain ⟨h1, h2⟩ := split_injective_right hb hb' h
  exact ⟨String.toList_inj.1 h1, String.toList_inj.1 h2⟩

/-! ## Entities of nodes -/

section
variable {R Uuid : Type} (T : Text R Uuid)

namespace Node

def entity : Node Uuid → GraphEntity EntityKind
  | plant => buildPlantEntity
  | zone zoneId => ⟨.zone, T.uuidStr zoneId⟩
  | sensor sensorId => ⟨.sensor, T.uuidStr sensorId⟩
  | sensorReading readingId => ⟨.sensorReading, T.uuidStr readingId⟩
  | worker workerId => ⟨.worker, T.uuidStr workerId⟩
  | equipment equipmentId => ⟨.equipment, T.uuidStr equipmentId⟩
  | permit permitId => ⟨.permit, T.uuidStr permitId⟩
  | riskAssessment assessmentId => ⟨.riskAssessment, T.uuidStr assessmentId⟩
  | triggeredAgent assessmentId agentName => buildTriggeredAgentEntity T assessmentId agentName
  | recommendation assessmentId recommendationKey =>
    ⟨.recommendation, recommendationId T assessmentId recommendationKey⟩
  | historicalIncident scenarioKey => ⟨.historicalIncident, scenarioKey⟩
  | forecast zoneId timestamp => buildForecastEntity T zoneId ⟨timestamp, 0⟩
  | lessonLearned rule => ⟨.lessonLearned, rule⟩
  | counterfactual zoneId timestamp => buildCounterfactualEntity T zoneId ⟨timestamp, 0⟩
  | businessImpact subKind zoneId timestamp =>
    buildBusinessImpactEntity T subKind zoneId ⟨timestamp, 0⟩

def kind : Node Uuid → EntityKind
  | plant => .plant
  | zone _ => .zone
  | sensor _ => .sensor
  | sensorReading _ => .sensorReading
  | worker _ => .worker
  | equipment _ => .equipment
  | permit _ => .permit
  | riskAssessment _ => .riskAssessment
  | triggeredAgent _ _ => .triggeredAgent
  | recommendation _ _ => .recommendation
  | historicalIncident _ => .historicalIncident
  | forecast _ _ => .forecast
  | lessonLearned _ => .lessonLearned
  | counterfactual _ _ => .counterfactual
  | businessImpact _ _ _ => .businessImpact

/-- The canonical id. -/
def id (a : Node Uuid) : String := (a.entity T).id

@[simp] theorem entity_kind (a : Node Uuid) : (a.entity T).kind = a.kind := by
  cases a <;> rfl

/-- No part of the id that may be any text has a separator, and some handler reads the id. -/
def Readable : Node Uuid → Prop
  | triggeredAgent _ agentName => idSeparator ∉ agentName.toList
  | recommendation _ recommendationKey => idSeparator ∉ recommendationKey.toList
  | businessImpact subKind _ _ => idSeparator ∉ subKind.toList
  | sensorReading _ => False
  | _ => True

end Node

/-- The node a handler takes an id for; `none` where it answers with nothing. -/
def readId (kind : EntityKind) (entityId : String) : Result (Option (Node Uuid)) :=
  match kind with
  | .plant => pure (some .plant)
  | .zone => do pure (some (.zone (← T.uuid entityId)))
  | .sensor => do pure (some (.sensor (← T.uuid entityId)))
  | .sensorReading => pure none
  | .worker => do pure (some (.worker (← T.uuid entityId)))
  | .equipment => do pure (some (.equipment (← T.uuid entityId)))
  | .permit => do pure (some (.permit (← T.uuid entityId)))
  | .riskAssessment => do pure (some (.riskAssessment (← T.uuid entityId)))
  | .triggeredAgent =>
    match parseTriggeredAgentId entityId with
    | none => pure none
    | some (assessmentIdStr, agentName) => do
      pure (some (.triggeredAgent (← T.uuid assessmentIdStr) agentName))
  | .recommendation =>
    match parseRecommendationId entityId with
    | none => pure none
    | some (assessmentIdStr, recommendationKey) => do
      pure (some (.recommendation (← T.uuid assessmentIdStr) recommendationKey))
  | .historicalIncident => pure (some (.historicalIncident entityId))
  | .forecast =>
    match parseZoneTimestampId entityId with
    | none => pure none
    | some (zoneIdStr, timestampStr) => do
      let zoneId ← T.uuid zoneIdStr
      let timestamp ← T.datetime timestampStr
      pure (some (.forecast zoneId timestamp.instant))
  | .lessonLearned => pure (some (.lessonLearned entityId))
  | .counterfactual =>
    match parseZoneTimestampId entityId with
    | none => pure none
    | some (zoneIdStr, timestampStr) => do
      let zoneId ← T.uuid zoneIdStr
      let timestamp ← T.datetime timestampStr
      pure (some (.counterfactual zoneId timestamp.instant))
  | .businessImpact =>
    match parseBusinessImpactId entityId with
    | none => pure none
    | some (subKind, zoneIdStr, timestampStr) => do
      let zoneId ← T.uuid zoneIdStr
      let timestamp ← T.datetime timestampStr
      pure (some (.businessImpact subKind zoneId timestamp.instant))

@[simp] theorem uuid_uuidStr (u : Uuid) : T.uuid (T.uuidStr u) = .ok u :=
  T.uuid_eq_ok.2 (T.uuidOfStr_uuidStr u)

@[simp] theorem datetime_isoformat (d : DateTime) : T.datetime (T.isoformat d) = .ok d := by
  rw [Text.datetime, T.fromisoformat_isoformat]
  rfl

theorem readId_kind {kind : EntityKind} {entityId : String} {a : Node Uuid}
    (h : readId T kind entityId = .ok (some a)) : a.kind = kind := by
  cases kind with
  | plant | historicalIncident | lessonLearned =>
    cases h
    rfl
  | sensorReading => cases h
  | zone | sensor | worker | equipment | permit | riskAssessment =>
    obtain ⟨_, -, h⟩ := Except.bind_eq_ok.1 h
    cases h
    rfl
  | triggeredAgent | recommendation =>
    unfold readId at h
    dsimp only at h
    split at h
    · cases h
    · obtain ⟨_, -, h⟩ := Except.bind_eq_ok.1 h
      cases h
      rfl
  | forecast | counterfactual | businessImpact =>
    unfold readId at h
    dsimp only at h
    split at h
    · cases h
    · obtain ⟨_, -, h⟩ := Except.bind_eq_ok.1 h
      obtain ⟨_, -, h⟩ := Except.bind_eq_ok.1 h
      cases h
      rfl

variable {T} (hT : Separated T)

include hT

/-- A canonical id is read back. -/
theorem readId_id {a : Node Uuid} (ha : a.Readable) : readId T a.kind (a.id T) = .ok (some a) := by
  cases a with
  | sensorReading readingId => exact ha.elim
  | triggeredAgent assessmentId agentName =>
    have hparse := parsePair_joinId (hT.uuidStr assessmentId) ha
    simp [readId, Node.kind, Node.id, Node.entity, buildTriggeredAgentEntity, triggeredAgentId,
      parseTriggeredAgentId, hparse]
  | recommendation assessmentId recommendationKey =>
    have hparse := parsePair_joinId (hT.uuidStr assessmentId) ha
    simp [readId, Node.kind, Node.id, Node.entity, recommendationId, parseRecommendationId, hparse]
  | forecast zoneId timestamp =>
    have hparse := parsePair_joinId (hT.uuidStr zoneId) (hT.isoformat ⟨timestamp, 0⟩)
    simp [readId, Node.kind, Node.id, Node.entity, buildForecastEntity, forecastId,
      parseZoneTimestampId, hparse]
  | counterfactual zoneId timestamp =>
    have hparse := parsePair_joinId (hT.uuidStr zoneId) (hT.isoformat ⟨timestamp, 0⟩)
    simp [readId, Node.kind, Node.id, Node.entity, buildCounterfactualEntity, counterfactualId,
      parseZoneTimestampId, hparse]
  | businessImpact subKind zoneId timestamp =>
    have hparse := parseBusinessImpactId_joinId ha (hT.uuidStr zoneId) (hT.isoformat ⟨timestamp, 0⟩)
    simp [readId, Node.kind, Node.id, Node.entity, buildBusinessImpactEntity, businessImpactId,
      hparse]
  | _ => simp [readId, Node.kind, Node.id, Node.entity]

omit hT in
/-- A separator in the wrong part leaves nothing to read. -/
theorem readId_id_of_not {a : Node Uuid} (ha : ¬a.Readable) : readId T a.kind (a.id T) = .ok none := by
  cases a with
  | sensorReading readingId => rfl
  | triggeredAgent assessmentId agentName =>
    have hparse := parsePair_joinId_of_mem (T.uuidStr assessmentId) (not_not.1 ha)
    simp [readId, Node.kind, Node.id, Node.entity, buildTriggeredAgentEntity, triggeredAgentId,
      parseTriggeredAgentId, hparse]
  | recommendation assessmentId recommendationKey =>
    have hparse := parsePair_joinId_of_mem (T.uuidStr assessmentId) (not_not.1 ha)
    simp [readId, Node.kind, Node.id, Node.entity, recommendationId, parseRecommendationId, hparse]
  | businessImpact subKind zoneId timestamp =>
    have hparse := parseBusinessImpactId_joinId_of_mem (not_not.1 ha) (T.uuidStr zoneId)
      (T.isoformat ⟨timestamp, 0⟩)
    simp [readId, Node.kind, Node.id, Node.entity, buildBusinessImpactEntity, businessImpactId,
      hparse]
  | _ => exact absurd trivial ha

/-- **No two nodes share a kind and an id.** -/
theorem id_injective {a b : Node Uuid} (hkind : a.kind = b.kind) (hid : a.id T = b.id T) : a = b := by
  have hinstant : ∀ {t t' : Instant}, T.isoformat ⟨t, 0⟩ = T.isoformat ⟨t', 0⟩ → t = t' :=
    fun h => congrArg DateTime.instant (T.isoformat_injective h)
  cases a <;> cases b <;> cases hkind
  case plant.plant.refl => rfl
  case historicalIncident.historicalIncident.refl | lessonLearned.lessonLearned.refl =>
    exact congrArg _ hid
  case triggeredAgent.triggeredAgent.refl | recommendation.recommendation.refl =>
    obtain ⟨h, rfl⟩ := (joinId_inj (hT.uuidStr _) (hT.uuidStr _)).1 hid
    rw [T.uuidStr_injective h]
  case forecast.forecast.refl | counterfactual.counterfactual.refl =>
    obtain ⟨h1, h2⟩ := (joinId_inj (hT.uuidStr _) (hT.uuidStr _)).1 hid
    rw [T.uuidStr_injective h1, hinstant h2]
  case businessImpact.businessImpact.refl =>
    -- the kind may have separators, so the parts are told apart from the right
    obtain ⟨h, h3⟩ := (joinId_inj_right (hT.isoformat _) (hT.isoformat _)).1
      ((joinId_assoc _ _ _).trans (hid.trans (joinId_assoc _ _ _).symm))
    obtain ⟨rfl, h2⟩ := (joinId_inj_right (hT.uuidStr _) (hT.uuidStr _)).1 h
    rw [T.uuidStr_injective h2, hinstant h3]
  all_goals exact congrArg _ (T.uuidStr_injective hid)

end

end KnowledgeGraph
