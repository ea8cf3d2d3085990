import IndustrialSafety.KnowledgeGraph.Proof.Facts

/-!
# What the handlers answer

A handler that returns, returns exactly the facts of the node its id is read as (`mem_getNeighbors`).
-/

namespace KnowledgeGraph

open Py Historical

section
variable {R Uuid : Type} [Field R] [LinearOrder R] [FloorRing R] [DecidableEq Uuid]
  {env : Env R Uuid} {db : Db R Uuid}

/-- An answer of exactly the facts of the node the id is read as. -/
def Answers (env : Env R Uuid) (db : Db R Uuid) (kind : EntityKind) (entityId : String)
    (l : List Found) : Prop :=
  ∀ p, p ∈ l ↔ ∃ a rel b, readId env.text kind entityId = .ok (some a) ∧ Shows env db a rel b ∧
    p = draw env.text (namedKey kind entityId) rel b

theorem answers_of_node {kind : EntityKind} {entityId : String} {a : Node Uuid} {l : List Found}
    (hread : readId env.text kind entityId = .ok (some a))
    (hsound : ∀ p ∈ l, ∃ rel b, Shows env db a rel b ∧
      p = draw env.text (namedKey kind entityId) rel b)
    (hcomplete : ∀ rel b, Shows env db a rel b → draw env.text (namedKey kind entityId) rel b ∈ l) :
    Answers env db kind entityId l := by
  intro p
  constructor
  · intro hp
    obtain ⟨rel, b, hs, rfl⟩ := hsound p hp
    exact ⟨a, rel, b, hread, hs, rfl⟩
  · rintro ⟨a', rel, b, hread', hs, rfl⟩
    cases hread.symm.trans hread'
    exact hcomplete rel b hs

theorem answers_nil {kind : EntityKind} {entityId : String}
    (hread : readId env.text kind entityId = .ok none) : Answers env db kind entityId [] := by
  refine fun p => ⟨fun hp => absurd hp List.not_mem_nil, ?_⟩
  rintro ⟨a, rel, b, hread', -, -⟩
  exact nomatch hread.symm.trans hread'

theorem answers_empty {kind : EntityKind} {entityId : String} {a : Node Uuid}
    (hread : readId env.text kind entityId = .ok (some a)) (h : ∀ rel b, ¬Shows env db a rel b) :
    Answers env db kind entityId [] :=
  answers_of_node hread (fun _ hp => absurd hp List.not_mem_nil) fun rel b hs => absurd hs (h rel b)

omit [Field R] [LinearOrder R] [FloorRing R] in
theorem zoneId_of_get {z : Uuid} {zone : Zone R Uuid} (h : ZoneRepository.get db z = some zone) :
    zone.zoneId = z :=
  (Table.get?_eq_some.1 h).2

theorem neighborsOfPlant_answers (entityId : String) :
    Answers env db .plant entityId (neighborsOfPlant env db) := by
  refine answers_of_node rfl ?_ ?_
  · intro p hp
    obtain ⟨zone, hzone, rfl⟩ := List.mem_map.1 hp
    have hget : ZoneRepository.get db zone.zoneId = some zone := Table.get?_eq_some.2 ⟨hzone, rfl⟩
    exact ⟨_, _, .plantZone (z := zone.zoneId) (by rw [hget]; rfl), rfl⟩
  · intro rel b hs
    cases hs with
    | plantZone h =>
      obtain ⟨zone, hzone⟩ := Option.isSome_iff_exists.1 h
      obtain ⟨hmem, rfl⟩ := Table.get?_eq_some.1 hzone
      exact List.mem_map.2 ⟨zone, hmem, rfl⟩

theorem neighborsOfZone_answers {entityId : String} {l : List Found}
    (h : neighborsOfZone env db entityId = .ok l) : Answers env db .zone entityId l := by
  obtain ⟨z, hz, h⟩ := Except.bind_eq_ok.1 h
  cases h
  refine answers_of_node (a := .zone z) (by rw [readId, hz]; rfl) ?_ ?_
  · intro p hp
    simp only [List.mem_append, List.mem_map] at hp
    rcases hp with ((((⟨s, hs, rfl⟩ | ⟨w, hw, rfl⟩) | ⟨e, he, rfl⟩) | ⟨p, hp, rfl⟩) |
      ⟨zone, hzone, rfl⟩) | ⟨a, ha, rfl⟩
    · exact ⟨_, _, .zoneSensor (List.mem_map_of_mem hs), rfl⟩
    · exact ⟨_, _, .zoneWorker (List.mem_map_of_mem hw), rfl⟩
    · exact ⟨_, _, .zoneEquipment (List.mem_map_of_mem he), rfl⟩
    · exact ⟨_, _, .zonePermit (List.mem_map_of_mem hp), rfl⟩
    · obtain ⟨z', hz', hget⟩ := List.mem_filterMap.1 hzone
      obtain rfl := zoneId_of_get hget
      exact ⟨_, _, .zoneZone hz' (by rw [hget]; rfl), rfl⟩
    · exact ⟨_, _, .zoneAssessment (List.mem_map_of_mem ha), rfl⟩
  · intro rel b hs
    simp only [List.mem_append]
    cases hs with
    | zoneSensor h =>
      obtain ⟨s, hs, rfl⟩ := List.mem_map.1 h
      exact .inl (.inl (.inl (.inl (.inl (List.mem_map.2 ⟨s, hs, rfl⟩)))))
    | zoneWorker h =>
      obtain ⟨w, hw, rfl⟩ := List.mem_map.1 h
      exact .inl (.inl (.inl (.inl (.inr (List.mem_map.2 ⟨w, hw, rfl⟩)))))
    | zoneEquipment h =>
      obtain ⟨e, he, rfl⟩ := List.mem_map.1 h
      exact .inl (.inl (.inl (.inr (List.mem_map.2 ⟨e, he, rfl⟩))))
    | zonePermit h =>
      obtain ⟨p, hp, rfl⟩ := List.mem_map.1 h
      exact .inl (.inl (.inr (List.mem_map.2 ⟨p, hp, rfl⟩)))
    | zoneZone h hz' =>
      obtain ⟨zone, hzone⟩ := Option.isSome_iff_exists.1 hz'
      obtain rfl := zoneId_of_get hzone
      exact .inl (.inr (List.mem_map.2 ⟨zone, List.mem_filterMap.2 ⟨_, h, hzone⟩, rfl⟩))
    | zoneAssessment h =>
      obtain ⟨a, ha, rfl⟩ := List.mem_map.1 h
      exact .inr (List.mem_map.2 ⟨a, ha, rfl⟩)

theorem neighborsOfSensor_answers {entityId : String} {l : List Found}
    (h : neighborsOfSensor env db entityId = .ok l) : Answers env db .sensor entityId l := by
  obtain ⟨s, hs, h⟩ := Except.bind_eq_ok.1 h
  have hread : readId env.text .sensor entityId = .ok (some (.sensor s)) := by rw [readId, hs]; rfl
  cases hget : SensorRepository.get db s with
  | none =>
    rw [hget] at h
    cases h
    refine answers_empty hread fun rel b hs => ?_
    cases hs with
    | sensorReading h => cases hget.symm.trans h
  | some sensor =>
    rw [hget] at h
    cases h
    refine answers_of_node hread ?_ ?_
    · intro p hp
      obtain ⟨r, hr, rfl⟩ := List.mem_map.1 hp
      exact ⟨_, _, .sensorReading hget (Option.mem_map_of_mem _ (Option.mem_toList.1 hr)), rfl⟩
    · intro rel b hshows
      cases hshows with
      | sensorReading h hr =>
        cases hget.symm.trans h
        obtain ⟨reading, hreading, rfl⟩ := Option.mem_map.1 hr
        exact List.mem_map.2 ⟨reading, Option.mem_toList.2 hreading, rfl⟩

theorem neighborsOfWorker_answers {entityId : String} {l : List Found}
    (h : neighborsOfWorker env db entityId = .ok l) : Answers env db .worker entityId l := by
  obtain ⟨w, hw, h⟩ := Except.bind_eq_ok.1 h
  have hread : readId env.text .worker entityId = .ok (some (.worker w)) := by rw [readId, hw]; rfl
  cases hget : WorkerRepository.get db w with
  | none =>
    rw [hget] at h
    cases h
    refine answers_empty hread fun rel b hs => ?_
    cases hs with
    | workerZone h | workerPermit h => cases hget.symm.trans h
  | some worker =>
    obtain rfl : worker.workerId = w := (Table.get?_eq_some.1 hget).2
    rw [hget] at h
    cases hzone : worker.currentZoneId with
    | none =>
      simp only [hzone] at h
      cases h
      refine answers_empty hread fun rel b hs => ?_
      cases hs with
      | workerZone h hz | workerPermit h hz =>
        cases hget.symm.trans h
        cases hzone.symm.trans hz
    | some z =>
      simp only [hzone] at h
      cases h
      refine answers_of_node hread ?_ ?_
      · intro p hp
        simp only [List.mem_append, List.mem_map, Option.mem_toList] at hp
        rcases hp with ⟨zone, hz, rfl⟩ | ⟨permit, hp, rfl⟩
        · obtain rfl := zoneId_of_get hz
          exact ⟨_, _, .workerZone hget hzone (by rw [hz]; rfl), rfl⟩
        · exact ⟨_, _, .workerPermit hget hzone (List.mem_map_of_mem hp), rfl⟩
      · intro rel b hs
        simp only [List.mem_append, List.mem_map, Option.mem_toList]
        cases hs with
        | workerZone h hz hex =>
          cases hget.symm.trans h
          cases hzone.symm.trans hz
          obtain ⟨zone, hget'⟩ := Option.isSome_iff_exists.1 hex
          obtain rfl := zoneId_of_get hget'
          exact .inl ⟨zone, hget', rfl⟩
        | workerPermit h hz hp =>
          cases hget.symm.trans h
          cases hzone.symm.trans hz
          obtain ⟨permit, hpermit, rfl⟩ := List.mem_map.1 hp
          exact .inr ⟨permit, hpermit, rfl⟩

theorem neighborsOfEquipment_answers {entityId : String} {l : List Found}
    (h : neighborsOfEquipment env db entityId = .ok l) : Answers env db .equipment entityId l := by
  obtain ⟨e, he, h⟩ := Except.bind_eq_ok.1 h
  have hread : readId env.text .equipment entityId = .ok (some (.equipment e)) := by
    rw [readId, he]; rfl
  cases hget : EquipmentRepository.get db e with
  | none =>
    rw [hget] at h
    cases h
    refine answers_empty hread fun rel b hs => ?_
    cases hs with
    | equipmentZone h => cases hget.symm.trans h
  | some equipment =>
    rw [hget] at h
    cases h
    refine answers_of_node hread ?_ ?_
    · intro p hp
      obtain ⟨zone, hz, rfl⟩ := List.mem_map.1 hp
      rw [Option.mem_toList] at hz
      exact ⟨_, _, .equipmentZone hget (zoneId_of_get hz).symm (by rw [zoneId_of_get hz, hz]; rfl), rfl⟩
    · intro rel b hs
      cases hs with
      | equipmentZone h hz hex =>
        cases hget.symm.trans h
        obtain ⟨zone, hget'⟩ := Option.isSome_iff_exists.1 hex
        obtain rfl := zoneId_of_get hget'
        exact List.mem_map.2 ⟨zone, Option.mem_toList.2 (hz ▸ hget'), rfl⟩

theorem neighborsOfPermit_answers {entityId : String} {l : List Found}
    (h : neighborsOfPermit env db entityId = .ok l) : Answers env db .permit entityId l := by
  obtain ⟨p, hp, h⟩ := Except.bind_eq_ok.1 h
  have hread : readId env.text .permit entityId = .ok (some (.permit p)) := by rw [readId, hp]; rfl
  cases hget : PermitRepository.get db p with
  | none =>
    rw [hget] at h
    cases h
    refine answers_empty hread fun rel b hs => ?_
    cases hs with
    | permitZone h | permitWorker h => cases hget.symm.trans h
  | some permit =>
    rw [hget] at h
    cases h
    refine answers_of_node hread ?_ ?_
    · intro p hp
      simp only [List.mem_append, List.mem_map, Option.mem_toList] at hp
      rcases hp with ⟨zone, hz, rfl⟩ | ⟨officer, ho, rfl⟩
      · exact ⟨_, _, .permitZone hget (zoneId_of_get hz).symm (by rw [zoneId_of_get hz, hz]; rfl), rfl⟩
      · have hid : officer.workerId = permit.authorizingOfficerId := (Table.get?_eq_some.1 ho).2
        exact ⟨_, _, .permitWorker hget hid.symm (by rw [hid, ho]; rfl), rfl⟩
    · intro rel b hs
      simp only [List.mem_append, List.mem_map, Option.mem_toList]
      cases hs with
      | permitZone h hz hex =>
        cases hget.symm.trans h
        obtain ⟨zone, hget'⟩ := Option.isSome_iff_exists.1 hex
        obtain rfl := zoneId_of_get hget'
        exact .inl ⟨zone, hz ▸ hget', rfl⟩
      | permitWorker h hw hex =>
        cases hget.symm.trans h
        obtain ⟨officer, hget'⟩ := Option.isSome_iff_exists.1 hex
        obtain rfl : officer.workerId = _ := (Table.get?_eq_some.1 hget').2
        exact .inr ⟨officer, hw ▸ hget', rfl⟩

/-! Assessments, their agents and their recommendations. -/

omit [Field R] [LinearOrder R] [FloorRing R] in
theorem assessmentId_of_get {i : Uuid} {a : RiskAssessment R Uuid}
    (h : RiskAssessmentRepository.get db i = some a) : a.assessmentId = i := by
  have := List.mem_filter.1 (List.mem_of_mem_head? h)
  simpa using this.2

theorem findIncident_eq_some {k : String} {incident : HistoricalIncident}
    (h : findIncident k = some incident) :
    ∃ deck ∈ historicalDecks, incident ∈ deck.incidents ∧ incident.scenarioKey = k := by
  obtain ⟨deck, hdeck, h⟩ := Option.bind_eq_some_iff.1 h
  exact ⟨deck, List.mem_of_find?_eq_some hdeck, List.mem_of_find?_eq_some h,
    by simpa using List.find?_some h⟩

omit [FloorRing R] in
theorem buildCounterfactual_eq {z : Uuid} {t : DateTime} {entity : GraphEntity EntityKind}
    (h : buildCounterfactual env db z t = .ok entity) :
    entity = buildCounterfactualEntity env.text z t := by
  obtain ⟨_, -, h⟩ := Except.bind_eq_ok.1 h
  cases h
  rfl

theorem neighborsOfRiskAssessment_answers {entityId : String} {l : List Found}
    (h : neighborsOfRiskAssessment env db entityId = .ok l) :
    Answers env db .riskAssessment entityId l := by
  obtain ⟨i, hi, h⟩ := Except.bind_eq_ok.1 h
  have hread : readId env.text .riskAssessment entityId = .ok (some (.riskAssessment i)) := by
    rw [readId, hi]; rfl
  cases hget : RiskAssessmentRepository.get db i with
  | none =>
    rw [hget] at h
    cases h
    refine answers_empty hread fun rel b hs => ?_
    cases hs with
    | assessmentZone h | assessmentAgent h | assessmentRecommendation h | assessmentIncident h
      | assessmentForecast h | assessmentCounterfactual h => cases hget.symm.trans h
  | some a =>
    obtain rfl := assessmentId_of_get hget
    rw [hget] at h
    obtain ⟨found, hfound, h⟩ := Except.bind_eq_ok.1 h
    obtain ⟨scenarioKey, hkey, h⟩ := Except.bind_eq_ok.1 h
    obtain ⟨entity, hentity, h⟩ := Except.bind_eq_ok.1 h
    obtain rfl := buildCounterfactual_eq hentity
    cases h
    refine answers_of_node hread ?_ ?_
    · intro p hp
      simp only [List.mem_append, List.mem_map, Option.mem_toList, List.mem_singleton] at hp
      rcases hp with ((((⟨zone, hz, rfl⟩ | ⟨c, hc, rfl⟩) | ⟨template, ht, rfl⟩) |
        ⟨incident, hincident, rfl⟩) | ⟨k, hk, rfl⟩) | rfl
      · exact ⟨_, _, .assessmentZone hget (zoneId_of_get hz).symm (by rw [zoneId_of_get hz, hz]; rfl),
          rfl⟩
      · exact ⟨_, _, .assessmentAgent hget (List.mem_map_of_mem hc), rfl⟩
      · exact ⟨_, _, .assessmentRecommendation hget (List.mem_map_of_mem ht), rfl⟩
      · obtain ⟨m, hm, hincident⟩ := List.mem_filterMap.1 hincident
        obtain ⟨-, -, -, hk⟩ := findIncident_eq_some hincident
        refine ⟨_, _, .assessmentIncident (k := m.scenarioKey) hget hfound (List.mem_map_of_mem hm)
          (by rw [hincident]; rfl), ?_⟩
        rw [← hk]
        rfl
      · obtain rfl : scenarioKey = some k := hk
        exact ⟨_, _, .assessmentForecast hget rfl rfl hkey, rfl⟩
      · exact ⟨_, _, .assessmentCounterfactual hget rfl rfl, rfl⟩
    · intro rel b hs
      simp only [List.mem_append, List.mem_map, Option.mem_toList, List.mem_singleton]
      cases hs with
      | assessmentZone h hz hex =>
        cases hget.symm.trans h
        obtain ⟨zone, hget'⟩ := Option.isSome_iff_exists.1 hex
        obtain rfl := zoneId_of_get hget'
        exact .inl (.inl (.inl (.inl (.inl ⟨zone, hz ▸ hget', rfl⟩))))
      | assessmentAgent h hn =>
        cases hget.symm.trans h
        obtain ⟨c, hc, rfl⟩ := List.mem_map.1 hn
        exact .inl (.inl (.inl (.inl (.inr ⟨c, hc, rfl⟩))))
      | assessmentRecommendation h hk =>
        cases hget.symm.trans h
        obtain ⟨template, ht, rfl⟩ := List.mem_map.1 hk
        exact .inl (.inl (.inl (.inr ⟨template, ht, rfl⟩)))
      | assessmentIncident h hfound' hk hex =>
        cases hget.symm.trans h
        cases hfound.symm.trans hfound'
        obtain ⟨m, hm, rfl⟩ := List.mem_map.1 hk
        obtain ⟨incident, hincident⟩ := Option.isSome_iff_exists.1 hex
        obtain ⟨-, -, -, hkey'⟩ := findIncident_eq_some hincident
        refine .inl (.inl (.inr ⟨incident, List.mem_filterMap.2 ⟨m, hm, hincident⟩, ?_⟩))
        rw [draw, Node.entity, ← hkey']
        rfl
      | assessmentForecast h hz ht hk =>
        cases hget.symm.trans h
        obtain rfl := hz
        obtain rfl := ht
        cases hkey.symm.trans hk
        exact .inl (.inr ⟨_, rfl, rfl⟩)
      | assessmentCounterfactual h hz ht =>
        cases hget.symm.trans h
        obtain rfl := hz
        obtain rfl := ht
        exact .inr rfl

theorem neighborsOfTriggeredAgent_answers {entityId : String} {l : List Found}
    (h : neighborsOfTriggeredAgent env db entityId = .ok l) :
    Answers env db .triggeredAgent entityId l := by
  unfold neighborsOfTriggeredAgent at h
  cases hparse : parseTriggeredAgentId entityId with
  | none =>
    rw [hparse] at h
    cases h
    exact answers_nil (by rw [readId, hparse]; rfl)
  | some parts =>
    obtain ⟨idStr, n⟩ := parts
    rw [hparse] at h
    obtain ⟨i, hi, h⟩ := Except.bind_eq_ok.1 h
    have hread : readId env.text .triggeredAgent entityId = .ok (some (.triggeredAgent i n)) := by
      simp only [readId, hparse, hi]
      rfl
    cases hget : RiskAssessmentRepository.get db i with
    | none =>
      rw [hget] at h
      cases h
      refine answers_empty hread fun rel b hs => ?_
      cases hs with
      | agentAssessment h => rw [hget] at h; cases h
      | agentSensor h => cases hget.symm.trans h
    | some a =>
      obtain rfl := assessmentId_of_get hget
      rw [hget] at h
      cases h
      refine answers_of_node hread ?_ ?_
      · intro p hp
        rcases List.mem_cons.1 hp with rfl | hp
        · exact ⟨_, _, .agentAssessment (i := a.assessmentId) (by rw [hget]; rfl), rfl⟩
        · obtain ⟨s, hs, rfl⟩ := List.mem_map.1 hp
          split at hs
          · rename_i hn
            exact ⟨_, _, .agentSensor hget hn (List.mem_map_of_mem hs), rfl⟩
          · cases hs
      · intro rel b hs
        cases hs with
        | agentAssessment h => exact .head _
        | agentSensor h hn hs =>
          cases hget.symm.trans h
          obtain ⟨s, hs', rfl⟩ := List.mem_map.1 hs
          exact .tail _ (List.mem_map.2 ⟨s, by rwa [if_pos hn], rfl⟩)

theorem neighborsOfRecommendation_answers {entityId : String} {l : List Found}
    (h : neighborsOfRecommendation env db entityId = .ok l) :
    Answers env db .recommendation entityId l := by
  unfold neighborsOfRecommendation at h
  cases hparse : parseRecommendationId entityId with
  | none =>
    rw [hparse] at h
    cases h
    exact answers_nil (by rw [readId, hparse]; rfl)
  | some parts =>
    obtain ⟨idStr, k⟩ := parts
    rw [hparse] at h
    obtain ⟨i, hi, h⟩ := Except.bind_eq_ok.1 h
    have hread : readId env.text .recommendation entityId = .ok (some (.recommendation i k)) := by
      simp only [readId, hparse, hi]
      rfl
    cases hget : RiskAssessmentRepository.get db i with
    | none =>
      rw [hget] at h
      cases h
      refine answers_empty hread fun rel b hs => ?_
      cases hs with
      | recommendationAssessment h => rw [hget] at h; cases h
      | recommendationAgent h => cases hget.symm.trans h
    | some a =>
      obtain rfl := assessmentId_of_get hget
      rw [hget] at h
      cases h
      refine answers_of_node hread ?_ ?_
      · intro p hp
        rcases List.mem_cons.1 hp with rfl | hp
        · exact ⟨_, _, .recommendationAssessment (i := a.assessmentId) (by rw [hget]; rfl), rfl⟩
        · obtain ⟨n, hn, rfl⟩ := List.mem_map.1 hp
          obtain ⟨hn, hc⟩ := Option.filter_eq_some_iff.1 (Option.mem_toList.1 hn)
          exact ⟨_, _, .recommendationAgent hget hn hc, rfl⟩
      · intro rel b hs
        cases hs with
        | recommendationAssessment h => exact .head _
        | recommendationAgent h hn hc =>
          cases hget.symm.trans h
          exact .tail _ (List.mem_map.2
            ⟨_, Option.mem_toList.2 (Option.filter_eq_some_iff.2 ⟨hn, hc⟩), rfl⟩)

/-! Ticks. -/

omit [FloorRing R] in
theorem assessmentOfTick_eq_ok {kind : EntityKind} {entityId zoneIdStr timestampStr : String}
    {relation : RelationKind} {l : List Found}
    (h : assessmentOfTick env db kind entityId relation zoneIdStr timestampStr = .ok l) :
    ∃ z t, env.text.uuid zoneIdStr = .ok z ∧ env.text.datetime timestampStr = .ok t ∧
      l = (RiskAssessmentRepository.getByZoneAndTimestamp db z t.instant).toList.map
        fun a => link kind entityId relation (buildRiskAssessmentEntity env.text a) := by
  obtain ⟨z, hz, h⟩ := Except.bind_eq_ok.1 h
  obtain ⟨t, ht, h⟩ := Except.bind_eq_ok.1 h
  cases h
  exact ⟨z, t, hz, ht, rfl⟩

theorem neighborsOfCounterfactual_answers {entityId : String} {l : List Found}
    (h : neighborsOfCounterfactual env db entityId = .ok l) :
    Answers env db .counterfactual entityId l := by
  unfold neighborsOfCounterfactual at h
  cases hparse : parseZoneTimestampId entityId with
  | none =>
    rw [hparse] at h
    cases h
    exact answers_nil (by rw [readId, hparse]; rfl)
  | some parts =>
    rw [hparse] at h
    obtain ⟨z, t, hz, ht, rfl⟩ := assessmentOfTick_eq_ok h
    refine answers_of_node (a := .counterfactual z t.instant) ?_ ?_ ?_
    · simp only [readId, hparse, hz, ht]
      rfl
    · intro p hp
      obtain ⟨a, ha, rfl⟩ := List.mem_map.1 hp
      exact ⟨_, _, .counterfactualAssessment (Option.mem_toList.1 ha) rfl, rfl⟩
    · intro rel b hs
      cases hs with
      | counterfactualAssessment h hi =>
        obtain rfl := hi
        exact List.mem_map.2 ⟨_, Option.mem_toList.2 h, rfl⟩

theorem neighborsOfBusinessImpact_answers {entityId : String} {l : List Found}
    (h : neighborsOfBusinessImpact env db entityId = .ok l) :
    Answers env db .businessImpact entityId l := by
  unfold neighborsOfBusinessImpact at h
  cases hparse : parseBusinessImpactId entityId with
  | none =>
    rw [hparse] at h
    cases h
    exact answers_nil (by rw [readId, hparse]; rfl)
  | some parts =>
    obtain ⟨kind, zoneIdStr, timestampStr⟩ := parts
    rw [hparse] at h
    obtain ⟨z, t, hz, ht, rfl⟩ := assessmentOfTick_eq_ok h
    refine answers_of_node (a := .businessImpact kind z t.instant) ?_ ?_ ?_
    · simp only [readId, hparse, hz, ht]
      rfl
    · intro p hp
      obtain ⟨a, ha, rfl⟩ := List.mem_map.1 hp
      exact ⟨_, _, .impactAssessment (Option.mem_toList.1 ha) rfl, rfl⟩
    · intro rel b hs
      cases hs with
      | impactAssessment h hi =>
        obtain rfl := hi
        exact List.mem_map.2 ⟨_, Option.mem_toList.2 h, rfl⟩

/-! Incidents and lessons. -/

/-- Each scenario is an incident of one deck at most. -/
theorem incident_unique {deck deck' : HistoricalDeck} {incident incident' : HistoricalIncident}
    (hdeck : deck ∈ historicalDecks) (hi : incident ∈ deck.incidents)
    (hdeck' : deck' ∈ historicalDecks) (hi' : incident' ∈ deck'.incidents)
    (h : incident.scenarioKey = incident'.scenarioKey) : deck = deck' ∧ incident = incident' := by
  have hnodup : ((historicalDecks.flatMap fun deck => deck.incidents.map fun i => (deck, i)).map
      fun p => p.2.scenarioKey).Nodup := by decide
  have hmem : ∀ {deck : HistoricalDeck} {i : HistoricalIncident}, deck ∈ historicalDecks →
      i ∈ deck.incidents → (deck, i) ∈
        historicalDecks.flatMap fun deck => deck.incidents.map fun i => (deck, i) :=
    fun hd hi => List.mem_flatMap.2 ⟨_, hd, List.mem_map_of_mem hi⟩
  exact Prod.mk.inj (List.inj_on_of_nodup_map hnodup (hmem hdeck hi) (hmem hdeck' hi') h)

/-- A key has one deck, incident and list of ticks. -/
theorem TicksOf.unique {k : String} {deck deck' : HistoricalDeck}
    {incident incident' : HistoricalIncident} {ticks ticks' : List (IndexedTick R Uuid)}
    (h : TicksOf env db k deck incident ticks) (h' : TicksOf env db k deck' incident' ticks') :
    deck = deck' ∧ incident = incident' ∧ ticks = ticks' := by
  obtain ⟨hdeck, hi, hk, ht⟩ := h
  obtain ⟨hdeck', hi', hk', ht'⟩ := h'
  obtain ⟨rfl, rfl⟩ := incident_unique hdeck hi hdeck' hi' (hk.trans hk'.symm)
  exact ⟨rfl, rfl, Except.ok.inj (ht.symm.trans ht')⟩

/-- The loop over the incidents of all decks. -/
theorem mem_scan {f : HistoricalDeck → HistoricalIncident → Result (List Found)}
    {ls : List (List (List Found))}
    (h : historicalDecks.mapM (fun deck => deck.incidents.mapM (f deck)) = .ok ls) {p : Found} :
    p ∈ ls.flatten.flatten ↔ ∃ deck ∈ historicalDecks, ∃ incident ∈ deck.incidents,
      ∃ l, f deck incident = .ok l ∧ p ∈ l := by
  simp only [List.mem_flatten]
  constructor
  · rintro ⟨l, ⟨ls', hls', hl⟩, hp⟩
    obtain ⟨deck, hdeck, hf⟩ := (Except.mem_mapM_iff h).1 hls'
    obtain ⟨incident, hi, hf⟩ := (Except.mem_mapM_iff hf).1 hl
    exact ⟨deck, hdeck, incident, hi, l, hf, hp⟩
  · rintro ⟨deck, hdeck, incident, hi, l, hf, hp⟩
    obtain ⟨ls', hls', hscan⟩ := (Except.mapM_eq_ok.1 h).exists_of_mem_left hdeck
    exact ⟨l, ⟨ls', hls', (Except.mem_mapM_iff hscan).2 ⟨incident, hi, hf⟩⟩, hp⟩

/-- And each of its steps returns. -/
theorem scan_total {f : HistoricalDeck → HistoricalIncident → Result (List Found)}
    {ls : List (List (List Found))}
    (h : historicalDecks.mapM (fun deck => deck.incidents.mapM (f deck)) = .ok ls)
    {deck : HistoricalDeck} {incident : HistoricalIncident} (hdeck : deck ∈ historicalDecks)
    (hi : incident ∈ deck.incidents) : ∃ l, f deck incident = .ok l := by
  obtain ⟨ls', -, hscan⟩ := (Except.mapM_eq_ok.1 h).exists_of_mem_left hdeck
  obtain ⟨l, -, hl⟩ := (Except.mapM_eq_ok.1 hscan).exists_of_mem_left hi
  exact ⟨l, hl⟩

theorem mem_commonIncident {k : String} {rules : List String} {outcome : Tier}
    {deck : HistoricalDeck} {other : HistoricalIncident} {l : List Found}
    {ticks : List (IndexedTick R Uuid)}
    (h : commonIncident env db k rules outcome deck other = .ok l) (hne : other.scenarioKey ≠ k)
    (hticks : incidentTicks env db deck other = .ok ticks) {p : Found} :
    p ∈ l ↔
      ((∃ tick ∈ ticks.head?, searchDecks env db (fun index => outcomeTier index other tick.zoneId) =
        .ok outcome) ∧ p = draw env.text (.historicalIncident, k) .sameOutcome
          (.historicalIncident other.scenarioKey)) ∨
      ((∃ rule ∈ rules, rule ∈ incidentRules ticks) ∧
        p = draw env.text (.historicalIncident, k) .sameTriggeredRule
          (.historicalIncident other.scenarioKey)) := by
  unfold commonIncident at h
  rw [if_neg hne, hticks] at h
  simp only [Except.ok_bind] at h
  cases hhead : ticks.head? with
  | none =>
    rw [hhead] at h
    cases h
    obtain rfl := List.head?_eq_none_iff.1 hhead
    refine iff_of_false List.not_mem_nil ?_
    rintro (⟨⟨_, h, -⟩, -⟩ | ⟨⟨rule, -, h⟩, -⟩)
    · exact nomatch h
    · exact absurd h (by simp [incidentRules])
  | some tick =>
    rw [hhead] at h
    obtain ⟨otherOutcome, houtcome, h⟩ := Except.bind_eq_ok.1 h
    obtain ⟨_, -, h⟩ := Except.bind_eq_ok.1 h
    cases h
    have hsame : (∃ t ∈ some tick, searchDecks env db
        (fun index => outcomeTier index other t.zoneId) = .ok outcome) ↔ otherOutcome = outcome := by
      simp [houtcome]
    rw [List.mem_append, hsame]
    refine or_congr ?_ ?_
    · split
      · rename_i heq
        simp only [heq, List.mem_singleton, true_and]
        rfl
      · rename_i hne'
        simp [hne']
    · split
      · rename_i hany
        have : ∃ rule ∈ rules, rule ∈ incidentRules ticks := by simpa using hany
        simp only [this, List.mem_singleton, true_and]
        rfl
      · rename_i hany
        have : ¬∃ rule ∈ rules, rule ∈ incidentRules ticks := by simpa using hany
        simp [this]

theorem neighborsOfHistoricalIncident_answers {k : String} {l : List Found}
    (h : neighborsOfHistoricalIncident env db k = .ok l) :
    Answers env db .historicalIncident k l := by
  have hread : readId env.text .historicalIncident k = .ok (some (.historicalIncident k)) := rfl
  -- an incident with this key is found by the two searches
  have hfound : ∀ {deck : HistoricalDeck} {incident : HistoricalIncident}, deck ∈ historicalDecks →
      incident ∈ deck.incidents → incident.scenarioKey = k →
        (∃ d, (historicalDecks.find? fun deck => deck.incidents.any (·.scenarioKey = k)) = some d) ∧
          ∃ i, deck.incidents.find? (·.scenarioKey = k) = some i := by
    intro deck incident hdeck hi hk
    rw [← Option.isSome_iff_exists, ← Option.isSome_iff_exists, List.find?_isSome, List.find?_isSome]
    refine ⟨⟨deck, hdeck, ?_⟩, incident, hi, by simpa using hk⟩
    exact List.any_eq_true.2 ⟨incident, hi, by simpa using hk⟩
  have hempty : (∀ deck incident ticks, TicksOf env db k deck incident ticks → ticks = []) →
      Answers env db .historicalIncident k [] := by
    intro hnil
    refine answers_empty hread fun rel b hs => ?_
    have hrule : ∀ rule, ¬RuleOf env db k rule := by
      rintro rule ⟨deck, incident, ticks, hticks, hr⟩
      rw [hnil _ _ _ hticks] at hr
      exact absurd hr (by simp [incidentRules])
    have houtcome : ∀ outcome, ¬OutcomeOf env db k outcome := by
      rintro outcome ⟨deck, incident, ticks, hticks, tick, htick, -⟩
      rw [hnil _ _ _ hticks] at htick
      exact nomatch htick
    cases hs with
    | incidentLesson h => exact hrule _ h
    | sameOutcome hne h => exact houtcome _ h
    | sameTriggeredRule hne h => exact hrule _ h
  unfold neighborsOfHistoricalIncident at h
  cases hdeck : historicalDecks.find? fun deck => deck.incidents.any (·.scenarioKey = k) with
  | none =>
    rw [hdeck] at h
    cases h
    refine hempty fun deck incident ticks hticks => ?_
    obtain ⟨⟨d, hd⟩, -⟩ := hfound hticks.1 hticks.2.1 hticks.2.2.1
    exact nomatch hdeck.symm.trans hd
  | some deck =>
    rw [hdeck] at h
    simp only at h
    have hmem := List.mem_of_find?_eq_some hdeck
    have hany := List.find?_some (p := fun deck : HistoricalDeck =>
      deck.incidents.any (·.scenarioKey = k)) hdeck
    obtain ⟨i, hi, hik⟩ := List.any_eq_true.1 hany
    obtain ⟨-, incident, hincident⟩ := hfound hmem hi (by simpa using hik)
    have himem := List.mem_of_find?_eq_some hincident
    have hkey : incident.scenarioKey = k := by simpa using List.find?_some hincident
    rw [hincident] at h
    obtain ⟨ticks, hticks, h⟩ := Except.bind_eq_ok.1 h
    have hof : TicksOf env db k deck incident ticks := ⟨hmem, himem, hkey, hticks⟩
    cases hhead : ticks.head? with
    | none =>
      rw [hhead] at h
      cases h
      obtain rfl := List.head?_eq_none_iff.1 hhead
      exact hempty fun _ _ _ hof' => (hof.unique hof').2.2.symm
    | some tick =>
      rw [hhead] at h
      obtain ⟨outcome, houtcome, h⟩ := Except.bind_eq_ok.1 h
      obtain ⟨common, hcommon, h⟩ := Except.bind_eq_ok.1 h
      cases h
      have hoOf : OutcomeOf env db k outcome := ⟨_, _, _, hof, tick, hhead, houtcome⟩
      refine answers_of_node hread ?_ ?_
      · intro p hp
        rcases List.mem_append.1 hp with hp | hp
        · obtain ⟨lesson, hlesson, rfl⟩ := List.mem_map.1 hp
          obtain ⟨rule, hrule, rfl⟩ := List.mem_map.1 hlesson
          have hrule : RuleOf env db k rule := ⟨_, _, _, hof, List.mem_eraseDups.1 hrule⟩
          exact ⟨_, _, .incidentLesson hrule, rfl⟩
        · obtain ⟨deck', hdeck', other, hother, l, hl, hp⟩ := (mem_scan hcommon).1 hp
          by_cases hne : other.scenarioKey = k
          · rw [commonIncident, if_pos hne] at hl
            cases hl
            cases hp
          · obtain ⟨ticks', hticks', -⟩ := Except.bind_eq_ok.1 (by
              rw [commonIncident, if_neg hne] at hl; exact hl)
            have hof' : TicksOf env db other.scenarioKey deck' other ticks' :=
              ⟨hdeck', hother, rfl, hticks'⟩
            rcases (mem_commonIncident hl hne hticks').1 hp with
              ⟨⟨tick', htick', ho⟩, rfl⟩ | ⟨⟨rule, hr, hr'⟩, rfl⟩
            · exact ⟨_, _, .sameOutcome hne hoOf ⟨_, _, _, hof', tick', htick', ho⟩, rfl⟩
            · exact ⟨_, _, .sameTriggeredRule hne ⟨_, _, _, hof, hr⟩ ⟨_, _, _, hof', hr'⟩, rfl⟩
      · intro rel b hs
        rw [List.mem_append]
        cases hs with
        | incidentLesson h =>
          obtain ⟨_, _, _, hof', hr⟩ := h
          obtain ⟨rfl, rfl, rfl⟩ := hof.unique hof'
          exact .inl (List.mem_map.2 ⟨_, List.mem_map_of_mem (List.mem_eraseDups.2 hr), rfl⟩)
        | sameOutcome hne h h' =>
          obtain ⟨_, _, _, hof', _, htick, ho⟩ := h
          obtain ⟨rfl, rfl, rfl⟩ := hof.unique hof'
          cases hhead.symm.trans htick
          cases houtcome.symm.trans ho
          obtain ⟨deck', other, ticks', ⟨hdeck', hother, rfl, hticks'⟩, tick', htick', ho'⟩ := h'
          obtain ⟨l, hl⟩ := scan_total hcommon hdeck' hother
          exact .inr ((mem_scan hcommon).2 ⟨deck', hdeck', other, hother, l, hl,
            (mem_commonIncident hl hne hticks').2 (.inl ⟨⟨tick', htick', ho'⟩, rfl⟩)⟩)
        | sameTriggeredRule hne h h' =>
          obtain ⟨_, _, _, hof', hr⟩ := h
          obtain ⟨rfl, rfl, rfl⟩ := hof.unique hof'
          obtain ⟨deck', other, ticks', ⟨hdeck', hother, rfl, hticks'⟩, hr'⟩ := h'
          obtain ⟨l, hl⟩ := scan_total hcommon hdeck' hother
          exact .inr ((mem_scan hcommon).2 ⟨deck', hdeck', other, hother, l, hl,
            (mem_commonIncident hl hne hticks').2 (.inr ⟨⟨_, hr, hr'⟩, rfl⟩)⟩)

theorem neighborsOfLesson_answers {rule : String} {l : List Found}
    (h : neighborsOfLesson env db rule = .ok l) : Answers env db .lessonLearned rule l := by
  obtain ⟨ls, hscan, h⟩ := Except.bind_eq_ok.1 h
  cases h
  refine answers_of_node (a := .lessonLearned rule) rfl ?_ ?_
  · intro p hp
    obtain ⟨deck, hdeck, incident, hi, l, hl, hp⟩ := (mem_scan hscan).1 hp
    obtain ⟨ticks, hticks, hl⟩ := Except.bind_eq_ok.1 hl
    split at hl
    · rename_i hr
      obtain ⟨_, -, hl⟩ := Except.bind_eq_ok.1 hl
      cases hl
      obtain rfl := List.mem_singleton.1 hp
      exact ⟨_, _, .lessonIncident ⟨deck, incident, ticks, ⟨hdeck, hi, rfl, hticks⟩, hr⟩, rfl⟩
    · cases hl
      cases hp
  · intro rel b hs
    cases hs with
    | lessonIncident h =>
      obtain ⟨deck, incident, ticks, ⟨hdeck, hi, rfl, hticks⟩, hr⟩ := h
      obtain ⟨l, hl⟩ := scan_total hscan hdeck hi
      refine (mem_scan hscan).2 ⟨deck, hdeck, incident, hi, l, hl, ?_⟩
      rw [incidentOfLesson, hticks, Except.ok_bind, if_pos hr] at hl
      obtain ⟨_, -, hl⟩ := Except.bind_eq_ok.1 hl
      cases hl
      exact .head _

/-! Forecasts. -/

omit [DecidableEq Uuid] in
theorem mem_supportingIncident {entityId k : String} {l : List Found}
    (h : supportingIncident env entityId k = .ok l) {p : Found} :
    p ∈ l ↔ (findIncident k).isSome ∧
      p = draw env.text (.forecast, entityId) .supports (.historicalIncident k) := by
  unfold supportingIncident at h
  cases hfind : findIncident k with
  | none =>
    rw [hfind] at h
    cases h
    simp
  | some incident =>
    rw [hfind] at h
    obtain ⟨_, -, h⟩ := Except.bind_eq_ok.1 h
    cases h
    obtain ⟨-, -, -, rfl⟩ := findIncident_eq_some hfind
    rw [List.mem_singleton]
    exact (and_iff_right rfl).symm

theorem neighborsOfForecast_answers {entityId : String} {l : List Found}
    (h : neighborsOfForecast env db entityId = .ok l) : Answers env db .forecast entityId l := by
  unfold neighborsOfForecast at h
  cases hparse : parseZoneTimestampId entityId with
  | none =>
    rw [hparse] at h
    cases h
    exact answers_nil (by rw [readId, hparse]; rfl)
  | some parts =>
    rw [hparse] at h
    obtain ⟨z, hz, h⟩ := Except.bind_eq_ok.1 h
    obtain ⟨t, ht, h⟩ := Except.bind_eq_ok.1 h
    have hread : readId env.text .forecast entityId = .ok (some (.forecast z t.instant)) := by
      simp only [readId, hparse, hz, ht]
      rfl
    obtain ⟨_, -, h⟩ := Except.bind_eq_ok.1 h
    obtain ⟨scenarioKey, hkey, h⟩ := Except.bind_eq_ok.1 h
    change resolveScenarioKey env z ⟨t.instant, 0⟩ = _ at hkey
    cases scenarioKey with
    | none =>
      cases h
      refine answers_empty hread fun rel b hs => ?_
      cases hs with
      | forecastAssessment hk | forecastRecommendation hk | forecastIncident hk =>
        cases hkey.symm.trans hk
    | some key =>
      cases hget : RiskAssessmentRepository.getByZoneAndTimestamp db z t.instant with
      | none =>
        simp only [hget] at h
        cases h
        refine answers_empty hread fun rel b hs => ?_
        cases hs with
        | forecastAssessment _ h | forecastRecommendation _ h | forecastIncident _ h =>
          cases hget.symm.trans h
      | some a =>
        simp only [hget] at h
        obtain ⟨found, hfound, h⟩ := Except.bind_eq_ok.1 h
        obtain ⟨supporting, hsupporting, h⟩ := Except.bind_eq_ok.1 h
        cases h
        refine answers_of_node hread ?_ ?_
        · intro p hp
          rcases List.mem_append.1 hp with hp | hp
          · rcases List.mem_cons.1 hp with rfl | hp
            · exact ⟨_, _, .forecastAssessment hkey hget rfl, rfl⟩
            · obtain ⟨template, ht, rfl⟩ := List.mem_map.1 hp
              exact ⟨_, _, .forecastRecommendation hkey hget rfl (List.mem_map_of_mem ht), rfl⟩
          · obtain ⟨l, hl, hp⟩ := List.mem_flatten.1 hp
            obtain ⟨m, hm, hl⟩ := (Except.mem_mapM_iff hsupporting).1 hl
            obtain ⟨hex, rfl⟩ := (mem_supportingIncident hl).1 hp
            exact ⟨_, _, .forecastIncident hkey hget hfound (List.mem_map_of_mem hm) hex, rfl⟩
        · intro rel b hs
          rw [List.mem_append]
          cases hs with
          | forecastAssessment hk h hi =>
            cases hget.symm.trans h
            obtain rfl := hi
            exact .inl (.head _)
          | forecastRecommendation hk h hi hr =>
            cases hget.symm.trans h
            obtain rfl := hi
            obtain ⟨template, ht, rfl⟩ := List.mem_map.1 hr
            exact .inl (.tail _ (List.mem_map.2 ⟨template, ht, rfl⟩))
          | forecastIncident hk h hfound' hm hex =>
            cases hget.symm.trans h
            cases hkey.symm.trans hk
            cases hfound.symm.trans hfound'
            obtain ⟨m, hmem, rfl⟩ := List.mem_map.1 hm
            obtain ⟨l, hl, hf⟩ := (Except.mapM_eq_ok.1 hsupporting).exists_of_mem_left hmem
            exact .inr (List.mem_flatten.2 ⟨l, hl, (mem_supportingIncident hf).2 ⟨hex, rfl⟩⟩)

/-- **A handler that returns, returns exactly the facts of its node.** -/
theorem mem_getNeighbors {kind : EntityKind} {entityId : String} {l : List Found}
    (h : getNeighbors env db kind entityId = .ok l) : Answers env db kind entityId l := by
  cases kind with
  | plant =>
    cases h
    exact neighborsOfPlant_answers entityId
  | zone => exact neighborsOfZone_answers h
  | sensor => exact neighborsOfSensor_answers h
  | sensorReading =>
    cases h
    exact answers_nil rfl
  | worker => exact neighborsOfWorker_answers h
  | equipment => exact neighborsOfEquipment_answers h
  | permit => exact neighborsOfPermit_answers h
  | riskAssessment => exact neighborsOfRiskAssessment_answers h
  | triggeredAgent => exact neighborsOfTriggeredAgent_answers h
  | recommendation => exact neighborsOfRecommendation_answers h
  | historicalIncident => exact neighborsOfHistoricalIncident_answers h
  | forecast => exact neighborsOfForecast_answers h
  | lessonLearned => exact neighborsOfLesson_answers h
  | counterfactual => exact neighborsOfCounterfactual_answers h
  | businessImpact => exact neighborsOfBusinessImpact_answers h

end

end KnowledgeGraph
