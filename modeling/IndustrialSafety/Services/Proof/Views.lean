import IndustrialSafety.Lib.Coroutine
import IndustrialSafety.Services.Proof.Ids
import IndustrialSafety.Services.Proof.Issuance
import IndustrialSafety.Services.Proof.ZoneRows

/-!
# What a request sees

A builder request names zones, and its rows carry ids with its seed (`Authored`). In the states of a
process that serves requests (`Serving`), its writes are rows of these zones (`writable`), and it reads
these zones and those adjacent to them (`SameView`). Writes of other zones are not seen
(`SameView.frame`); in databases with the same view a request persists the same
(`persistBuilderScenario_lockstep`) and its ticks' queries have the same answers
(`SameView.sameQueries`).
-/

open Py Simulation

namespace ScenarioBuilder

open SimulationRunner RiskPipeline

variable {R Uuid : Type} [DecidableEq Uuid]

/-! ## Zones and ids -/

/-- The zones that the events name. -/
def zonesOf (T : Text R Uuid) (scenario : Scenario R) : List Uuid :=
  (scenario.sensorEvents.map SensorEvent.zoneKey ++
    scenario.permitEvents.map PermitEvent.zoneKey).filterMap T.uuidOfStr

/-- These zones, and those adjacent to them. -/
def neighbourhood (T : Text R Uuid) (base : Db R Uuid) (scenario : Scenario R) : List Uuid :=
  zonesOf T scenario ++ (zonesOf T scenario).flatMap (ZoneAdjacencyRepository.adjacentZoneIds base)

/-- An id of a reading or a permit with the seed. -/
def Authored (T : Text R Uuid) (seed : Int) (id : Uuid) : Prop :=
  (∃ name tickIndex, id = T.resolveId (readingKey seed name tickIndex)) ∨
    ∃ name, id = T.resolveId (permitKey seed name)

omit [DecidableEq Uuid] in
theorem Authored.seed_eq {T : Text R Uuid} (hT : Function.Injective T.resolveId) {seed seed' : Int}
    {id : Uuid} (h : Authored T seed id) (h' : Authored T seed' id) : seed = seed' := by
  rcases h with ⟨name, i, rfl⟩ | ⟨name, rfl⟩
  · rcases h' with ⟨name', i', heq⟩ | ⟨name', heq⟩
    · exact (readingKey_inj (hT heq)).1
    · exact absurd (hT heq) (readingKey_ne_permitKey _ _ _ _ _)
  · rcases h' with ⟨name', i', heq⟩ | ⟨name', heq⟩
    · exact absurd (hT heq).symm (readingKey_ne_permitKey _ _ _ _ _)
    · exact (permitKey_inj (hT heq)).1

/-- The rows that a request may write. -/
def writable (T : Text R Uuid) (scenario : Scenario R) : Allowed R Uuid where
  reading r := Authored T scenario.seed r.readingId ∧ r.zoneId ∈ zonesOf T scenario
  permit _ p := Authored T scenario.seed p.permitId ∧ p.zoneId ∈ zonesOf T scenario
  assessment a := IsTick T a ∧ a.zoneId ∈ zonesOf T scenario

/-- The states of a process that serves the requests: a row with the seed of a request is one of its
zones. -/
structure Serving {ι : Type} (T : Text R Uuid) (base : Db R Uuid) (scenarios : ι → Scenario R)
    (s : Db R Uuid) : Prop where
  static : SameStatic base s
  own : OwnIds T s
  reading : ∀ i, ∀ r ∈ s.sensorReadings, Authored T (scenarios i).seed r.readingId →
    r.zoneId ∈ zonesOf T (scenarios i)
  permit : ∀ i, ∀ p ∈ s.permits, Authored T (scenarios i).seed p.permitId →
    p.zoneId ∈ zonesOf T (scenarios i)

/-- What a request reads is the same. -/
structure SameView (T : Text R Uuid) (base : Db R Uuid) (scenario : Scenario R) (s s' : Db R Uuid) :
    Prop where
  sensorReadings : s'.sensorReadings.filter (·.zoneId ∈ zonesOf T scenario) =
    s.sensorReadings.filter (·.zoneId ∈ zonesOf T scenario)
  permits : s'.permits.filter (·.zoneId ∈ neighbourhood T base scenario) =
    s.permits.filter (·.zoneId ∈ neighbourhood T base scenario)
  riskAssessments : s'.riskAssessments.filter (·.zoneId ∈ neighbourhood T base scenario) =
    s.riskAssessments.filter (·.zoneId ∈ neighbourhood T base scenario)

section
variable {ι : Type} {T : Text R Uuid} {base s s' t : Db R Uuid} {scenario : Scenario R}
  {scenarios : ι → Scenario R} {i j : ι} {Z : List Uuid}

theorem SameView.refl (s : Db R Uuid) : SameView T base scenario s s := ⟨rfl, rfl, rfl⟩

theorem SameView.trans (h : SameView T base scenario s s') (h' : SameView T base scenario s' t) :
    SameView T base scenario s t :=
  ⟨h'.sensorReadings.trans h.sensorReadings, h'.permits.trans h.permits,
    h'.riskAssessments.trans h.riskAssessments⟩

theorem mem_neighbourhood {z : Uuid} (h : z ∈ zonesOf T scenario) :
    z ∈ neighbourhood T base scenario :=
  List.mem_append_left _ h

/-! ## A write -/

/-- The zones of `Z` are those of a request and others, or others only. -/
def Whole (T : Text R Uuid) (scenario : Scenario R) (Z : List Uuid) : Prop :=
  ∀ z ∈ zonesOf T scenario, ∀ w ∈ zonesOf T scenario, z ∈ Z ↔ w ∈ Z

theorem filter_reading (hs : Serving T base scenarios s) (hZ : Whole T (scenarios i) Z)
    {row : SensorReading R Uuid} (hrow : (writable T (scenarios i)).reading row) :
    (s.sensorReadings.upsert row).filter (·.zoneId ∈ Z) =
      if row.zoneId ∈ Z then (s.sensorReadings.filter (·.zoneId ∈ Z)).upsert row
        else s.sensorReadings.filter (·.zoneId ∈ Z) := by
  rw [Table.filter_upsert_eq]
  · simp
  · intro r hr hkey
    obtain ⟨hauthored, hzone⟩ := hrow
    rw [← (Prod.mk.inj hkey).1] at hauthored
    exact decide_eq_decide.2 (hZ _ (hs.reading i r hr hauthored) _ hzone)

theorem filter_permit (hs : Serving T base scenarios s) (hZ : Whole T (scenarios i) Z)
    {row : Permit R Uuid} (hrow : (writable T (scenarios i)).permit s row) :
    (s.permits.upsert row).filter (·.zoneId ∈ Z) =
      if row.zoneId ∈ Z then (s.permits.filter (·.zoneId ∈ Z)).upsert row
        else s.permits.filter (·.zoneId ∈ Z) := by
  rw [Table.filter_upsert_eq]
  · simp
  · intro p hp hkey
    obtain ⟨hauthored, hzone⟩ := hrow
    rw [← hkey] at hauthored
    exact decide_eq_decide.2 (hZ _ (hs.permit i p hp hauthored) _ hzone)

theorem filter_assessment (hs : Serving T base scenarios s) {row : RiskAssessment R Uuid}
    (hrow : (writable T (scenarios i)).assessment row) :
    (s.riskAssessments.upsert row).filter (·.zoneId ∈ Z) =
      if row.zoneId ∈ Z then (s.riskAssessments.filter (·.zoneId ∈ Z)).upsert row
        else s.riskAssessments.filter (·.zoneId ∈ Z) := by
  rw [Table.filter_upsert_eq]
  · simp
  · intro a ha hkey
    rw [hs.own.zoneId_eq hrow.1 ha hkey]

/-- The seeds of the requests. -/
def DistinctSeeds (scenarios : ι → Scenario R) : Prop :=
  ∀ i j, i ≠ j → (scenarios i).seed ≠ (scenarios j).seed

omit [DecidableEq Uuid] in
theorem Authored.eq (hT : Function.Injective T.resolveId) (hseeds : DistinctSeeds scenarios) {id : Uuid}
    (h : Authored T (scenarios i).seed id) (h' : Authored T (scenarios j).seed id) : i = j := by
  by_contra hne
  exact hseeds i j hne (h.seed_eq hT h')

theorem Serving.rowWrite (hT : Function.Injective T.resolveId) (hseeds : DistinctSeeds scenarios)
    (hs : Serving T base scenarios s) (h : RowWrite (writable T (scenarios j)) s t) :
    Serving T base scenarios t := by
  have hstatic := hs.static
  cases h with
  | reading row hrow =>
    refine ⟨⟨hstatic.zones, hstatic.zoneAdjacency, hstatic.sensors, hstatic.equipment,
      hstatic.workers⟩, hs.own, fun i r hr hauthored => ?_, hs.permit⟩
    rcases Table.mem_upsert.1 hr with rfl | ⟨hr, -⟩
    · rw [hauthored.eq hT hseeds hrow.1]
      exact hrow.2
    · exact hs.reading i r hr hauthored
  | permit row hrow =>
    refine ⟨⟨hstatic.zones, hstatic.zoneAdjacency, hstatic.sensors, hstatic.equipment,
      hstatic.workers⟩, hs.own, hs.reading, fun i p hp hauthored => ?_⟩
    rcases Table.mem_upsert.1 hp with rfl | ⟨hp, -⟩
    · rw [hauthored.eq hT hseeds hrow.1]
      exact hrow.2
    · exact hs.permit i p hp hauthored
  | assessment row hrow =>
    exact ⟨⟨hstatic.zones, hstatic.zoneAdjacency, hstatic.sensors, hstatic.equipment,
      hstatic.workers⟩, hs.own.persist hT hrow.1, hs.reading, hs.permit⟩

theorem Serving.writes (hT : Function.Injective T.resolveId) (hseeds : DistinctSeeds scenarios)
    (hs : Serving T base scenarios s) (h : Writes (writable T (scenarios j)) s t) :
    Serving T base scenarios t := by
  induction h with
  | refl => exact hs
  | tail _ hw ih => exact ih.rowWrite hT hseeds hw

/-- No request writes where another one reads. -/
def ZonesApart (T : Text R Uuid) (base : Db R Uuid) (scenarios : ι → Scenario R) : Prop :=
  ∀ i j, i ≠ j → ∀ z ∈ zonesOf T (scenarios j), z ∉ neighbourhood T base (scenarios i)

/-- **The others' writes are not seen.** -/
theorem SameView.frame (hT : Function.Injective T.resolveId) (hseeds : DistinctSeeds scenarios)
    (hzones : ZonesApart T base scenarios) (hij : i ≠ j) (hs : Serving T base scenarios s)
    (h : Writes (writable T (scenarios j)) s t) : SameView T base (scenarios i) s t := by
  have hfar := hzones i j hij
  have hnear : ∀ z ∈ zonesOf T (scenarios j), z ∉ zonesOf T (scenarios i) := fun z hz hzi =>
    hfar z hz (mem_neighbourhood hzi)
  have hwhole : ∀ {Z : List Uuid}, (∀ z ∈ zonesOf T (scenarios j), z ∉ Z) →
      Whole T (scenarios j) Z := fun hZ z hz w hw => iff_of_false (hZ z hz) (hZ w hw)
  induction h with
  | refl => exact .refl s
  | tail hbefore hw ih =>
    refine ih.trans ?_
    have hserving := hs.writes hT hseeds hbefore
    cases hw with
    | reading row hrow =>
      refine ⟨?_, rfl, rfl⟩
      show (Table.upsert _ row).filter _ = _
      rw [filter_reading hserving (hwhole hnear) hrow, if_neg (hnear _ hrow.2)]
    | permit row hrow =>
      refine ⟨rfl, ?_, rfl⟩
      show (Table.upsert _ row).filter _ = _
      rw [filter_permit hserving (hwhole hfar) hrow, if_neg (hfar _ hrow.2)]
    | assessment row hrow =>
      refine ⟨rfl, rfl, ?_⟩
      show (Table.upsert _ row).filter _ = _
      rw [filter_assessment hserving hrow, if_neg (hfar _ hrow.2)]

/-! ## The own writes -/

/-- Two states of the process that a request does not tell apart. -/
structure SameFor (T : Text R Uuid) (base : Db R Uuid) (scenarios : ι → Scenario R) (i : ι)
    (s s' : Db R Uuid) : Prop where
  left : Serving T base scenarios s
  right : Serving T base scenarios s'
  view : SameView T base (scenarios i) s s'

theorem SameFor.static (h : SameFor T base scenarios i s s') : SameStatic s s' where
  zones := h.right.static.zones.trans h.left.static.zones.symm
  zoneAdjacency := h.right.static.zoneAdjacency.trans h.left.static.zoneAdjacency.symm
  sensors := h.right.static.sensors.trans h.left.static.sensors.symm
  equipment := h.right.static.equipment.trans h.left.static.equipment.symm
  workers := h.right.static.workers.trans h.left.static.workers.symm

omit [DecidableEq Uuid] in
theorem whole_zonesOf : Whole T scenario (zonesOf T scenario) := fun _ hz _ hw => iff_of_true hz hw

theorem whole_neighbourhood : Whole T scenario (neighbourhood T base scenario) := fun _ hz _ hw =>
  iff_of_true (mem_neighbourhood hz) (mem_neighbourhood hw)

theorem SameFor.reading (hT : Function.Injective T.resolveId) (hseeds : DistinctSeeds scenarios)
    (h : SameFor T base scenarios i s s') {row : SensorReading R Uuid}
    (hrow : (writable T (scenarios i)).reading row) : SameFor T base scenarios i
      { s with sensorReadings := s.sensorReadings.upsert row }
      { s' with sensorReadings := s'.sensorReadings.upsert row } where
  left := h.left.rowWrite hT hseeds (.reading s row hrow)
  right := h.right.rowWrite hT hseeds (.reading s' row hrow)
  view := by
    refine ⟨?_, h.view.permits, h.view.riskAssessments⟩
    show (Table.upsert _ row).filter _ = (Table.upsert _ row).filter _
    rw [filter_reading h.left whole_zonesOf hrow, filter_reading h.right whole_zonesOf hrow,
      h.view.sensorReadings]

theorem SameFor.permit (hT : Function.Injective T.resolveId) (hseeds : DistinctSeeds scenarios)
    (h : SameFor T base scenarios i s s') {row : Permit R Uuid}
    (hrow : (writable T (scenarios i)).permit s row) : SameFor T base scenarios i
      { s with permits := s.permits.upsert row } { s' with permits := s'.permits.upsert row } where
  left := h.left.rowWrite hT hseeds (.permit s row hrow)
  right := h.right.rowWrite hT hseeds (.permit s' row hrow)
  view := by
    refine ⟨h.view.sensorReadings, ?_, h.view.riskAssessments⟩
    show (Table.upsert _ row).filter _ = (Table.upsert _ row).filter _
    rw [filter_permit h.left whole_neighbourhood hrow, filter_permit h.right whole_neighbourhood hrow,
      h.view.permits]

theorem SameFor.assessment (hT : Function.Injective T.resolveId) (hseeds : DistinctSeeds scenarios)
    (h : SameFor T base scenarios i s s') {row : RiskAssessment R Uuid}
    (hrow : (writable T (scenarios i)).assessment row) :
    SameFor T base scenarios i (persist s row) (persist s' row) where
  left := h.left.rowWrite hT hseeds (.assessment s row hrow)
  right := h.right.rowWrite hT hseeds (.assessment s' row hrow)
  view := by
    refine ⟨h.view.sensorReadings, h.view.permits, ?_⟩
    show (Table.upsert _ row).filter _ = (Table.upsert _ row).filter _
    rw [filter_assessment h.left hrow, filter_assessment h.right hrow, h.view.riskAssessments]

/-! ## Queries -/

omit [DecidableEq Uuid] in
/-- A query within what is seen. -/
theorem filter_within {α κ : Type} {key : α → κ} {t t' : Table key} {p q : α → Bool}
    (h : t'.filter p = t.filter p) (hq : ∀ r, q r = true → p r = true) :
    t'.rows.filter q = t.rows.filter q := by
  have hrows : ∀ t : Table key, t.rows.filter q = (t.filter p).rows.filter q := by
    intro t
    show _ = (t.rows.filter p).filter q
    rw [List.filter_filter]
    refine List.filter_congr fun r _ => ?_
    cases hr : q r with
    | false => rfl
    | true => rw [hq r hr, Bool.and_true]
  rw [hrows t', hrows t, h]

theorem SameFor.listOpenByZone (h : SameFor T base scenarios i s s') {w : Uuid}
    (hw : w ∈ neighbourhood T base (scenarios i)) :
    PermitRepository.listOpenByZone s' w = PermitRepository.listOpenByZone s w :=
  filter_within h.view.permits fun p hp => by
    rw [decide_eq_true_iff] at hp
    exact decide_eq_true (hp.1 ▸ hw)

theorem SameFor.latestByZone (h : SameFor T base scenarios i s s') {w : Uuid}
    (hw : w ∈ neighbourhood T base (scenarios i)) :
    RiskAssessmentRepository.latestByZone s' w = RiskAssessmentRepository.latestByZone s w :=
  congrArg (Query.latest RiskAssessment.timestamp) <|
    filter_within h.view.riskAssessments fun a ha => by
      rw [decide_eq_true_iff] at ha
      exact decide_eq_true (ha ▸ hw)

/-- **The queries of a tick of the request have the same answers.** -/
theorem SameFor.sameQueries [Field R] [LinearOrder R] (h : SameFor T base scenarios i s s') {z : Uuid}
    (hz : z ∈ zonesOf T (scenarios i)) (gasType : String) : SameQueries s s' z gasType := by
  have hread : ∀ q : SensorReading R Uuid → Bool, (∀ r, q r = true → r.zoneId = z) →
      s'.sensorReadings.rows.filter q = s.sensorReadings.rows.filter q := fun q hq =>
    filter_within h.view.sensorReadings fun r hr => decide_eq_true (hq r hr ▸ hz)
  have hadjacent : adjacentZones s' z = adjacentZones s z := by
    have hids : ZoneAdjacencyRepository.adjacentZoneIds s' z =
        ZoneAdjacencyRepository.adjacentZoneIds s z := by
      unfold ZoneAdjacencyRepository.adjacentZoneIds
      rw [h.static.zoneAdjacency]
    unfold adjacentZones
    rw [hids]
    refine List.filterMap_congr fun w hw => ?_
    have hnear : w ∈ neighbourhood T base (scenarios i) := by
      refine List.mem_append_right _ (List.mem_flatMap.2 ⟨z, hz, ?_⟩)
      unfold ZoneAdjacencyRepository.adjacentZoneIds at hw ⊢
      rwa [← h.left.static.zoneAdjacency]
    unfold ContextBuilders.adjacentZoneStatus
    rw [h.latestByZone hnear, h.listOpenByZone hnear]
  refine ⟨h.static, fun before limit => ?_, ?_, ?_, fun p _ => by rw [hadjacent]⟩
  · exact congrArg (Query.recent SensorReading.timestamp limit) <|
      hread _ fun r hr => (of_decide_eq_true hr).1
  · exact congrArg (Query.latest SensorReading.timestamp) <|
      hread _ fun r hr => (of_decide_eq_true hr).1
  · rw [h.listOpenByZone (mem_neighbourhood hz)]

end

/-! ## The scenario persisted -/

section
variable [Field R] [LinearOrder R] [FloorRing R] {ι : Type} {M : Math R} {T : Text R Uuid}
  {base s s' : Db R Uuid} {scenario : Scenario R} {scenarios : ι → Scenario R} {i : ι}
  {readings : List (GeneratedReading R Uuid)}

/-- The records that a scenario generates: their ids have its seed, and they name its zones. -/
structure Generates (T : Text R Uuid) (scenario : Scenario R) (id : Uuid) (zoneKey : String) : Prop where
  authored : Authored T scenario.seed id
  zone : ∀ z, T.uuidOfStr zoneKey = some z → z ∈ zonesOf T scenario

omit [DecidableEq Uuid] in
theorem generates_reading (h : generateSensorReadings M T scenario = .ok readings)
    {r : GeneratedReading R Uuid} (hr : r ∈ readings) :
    Generates T scenario r.readingId r.zoneKey := by
  refine ⟨?_, fun z hz => ?_⟩
  · obtain ⟨counts, -, hids⟩ := generateSensorReadings_ids h
    have hid : r.readingId ∈ readings.map GeneratedReading.readingId := List.mem_map_of_mem hr
    rw [hids] at hid
    obtain ⟨key, hkey, hid⟩ := List.mem_map.1 hid
    obtain ⟨c, -, hkey⟩ := List.mem_flatMap.1 hkey
    obtain ⟨tickIndex, -, rfl⟩ := List.mem_map.1 hkey
    exact .inl ⟨c.1, tickIndex, hid.symm⟩
  · obtain ⟨event, hevent, hzone, -⟩ := generated_event h hr
    rw [hzone] at hz
    exact List.mem_filterMap.2 ⟨_, List.mem_append_left _ (List.mem_map_of_mem hevent), hz⟩

omit [DecidableEq Uuid] in
theorem generates_permit {permits : List (GeneratedPermit Uuid)}
    (h : generatePermits T scenario = .ok permits) {p : GeneratedPermit Uuid} (hp : p ∈ permits) :
    Generates T scenario p.permitId p.zoneKey := by
  obtain ⟨start, -, -, rfl⟩ := generatePermits_eq_ok.1 h
  obtain ⟨event, hevent, rfl⟩ := List.mem_map.1 hp
  exact ⟨.inr ⟨event.name, rfl⟩, fun z hz =>
    List.mem_filterMap.2 ⟨_, List.mem_append_right _ (List.mem_map_of_mem hevent), hz⟩⟩

omit [LinearOrder R] [FloorRing R] [Field R] in
theorem persistReading_lockstep (hT : Function.Injective T.resolveId)
    (hseeds : DistinctSeeds scenarios) {r : GeneratedReading R Uuid}
    (hr : Generates T (scenarios i) r.readingId r.zoneKey)
    (h : SameFor T base scenarios i s s') : Transaction.Lockstep (SameFor T base scenarios i) Eq
      (persistReading T.uuid r s) (persistReading T.uuid r s') := by
  refine Transaction.Lockstep.lift_bind fun z hz => ?_
  rw [Transaction.get_bind, Transaction.get_bind]
  have hzone := hr.zone z (T.uuid_eq_ok.1 hz)
  unfold SensorRepository.getByZoneAndGas
  rw [h.static.sensors]
  generalize s.sensors.rows.find? _ = sensor
  cases sensor with
  | none => exact .error rfl
  | some sensor =>
    refine Transaction.Lockstep.bind (r := Eq) ?_ fun _ _ _ _ _ hs => .ok ⟨rfl, hs⟩
    unfold SensorReadingRepository.create
    rw [Transaction.get_bind, Transaction.get_bind]
    dsimp only
    -- the row on which the reading is merged is one of the zones, if there is one
    have hexisting : s'.sensorReadings.get? (r.readingId, r.timestamp.instant) =
        s.sensorReadings.get? (r.readingId, r.timestamp.instant) := by
      have hfind : ∀ d, Serving T base scenarios d →
          (d.sensorReadings.filter (·.zoneId ∈ zonesOf T (scenarios i))).get?
              (r.readingId, r.timestamp.instant) =
            d.sensorReadings.get? (r.readingId, r.timestamp.instant) := fun d hd =>
        Table.get?_filter fun row hrow hkey => decide_eq_true <|
          hd.reading i row hrow ((Prod.mk.inj hkey).1 ▸ hr.authored)
      rw [← hfind s h.left, ← hfind s' h.right, h.view.sensorReadings]
    have hcheck : ∀ (args : SensorReadingRepository.Args R Uuid) existing,
        args.check s' existing = args.check s existing := by
      intro args existing
      unfold SensorReadingRepository.Args.check
      rw [h.static.sensors, h.static.zones]
    rw [hexisting, hcheck]
    refine Transaction.Lockstep.lift_bind fun row hrow => .ok ⟨rfl, ?_⟩
    obtain ⟨unit, -, rfl, -⟩ := SensorReadingRepository.check_eq_ok.1 hrow
    exact h.reading hT hseeds ⟨hr.authored, hzone⟩

omit [FloorRing R] in
theorem persistPermit_lockstep (hT : Function.Injective T.resolveId)
    (hseeds : DistinctSeeds scenarios) {p : GeneratedPermit Uuid}
    (hp : Generates T (scenarios i) p.permitId p.zoneKey)
    (h : SameFor T base scenarios i s s') : Transaction.Lockstep (SameFor T base scenarios i) Eq
      (persistPermit M T T.uuid scenario readings p s)
      (persistPermit M T T.uuid scenario readings p s') := by
  refine Transaction.Lockstep.lift_bind fun z hz => ?_
  rw [Transaction.get_bind, Transaction.get_bind, computeBaselineSnapshot_static h.static]
  have hzone := hp.zone z (T.uuid_eq_ok.1 hz)
  refine Transaction.Lockstep.lift_bind fun baseline _ => ?_
  refine Transaction.Lockstep.lift_bind fun officer _ => ?_
  refine Transaction.Lockstep.bind (r := Eq) ?_ fun _ _ _ _ _ hs => .ok ⟨rfl, hs⟩
  unfold PermitRepository.create
  rw [Transaction.get_bind, Transaction.get_bind]
  have hexisting : s'.permits.get? p.permitId = s.permits.get? p.permitId := by
    have hfind : ∀ d, Serving T base scenarios d →
        (d.permits.filter (·.zoneId ∈ neighbourhood T base (scenarios i))).get? p.permitId =
          d.permits.get? p.permitId := fun d hd =>
      Table.get?_filter fun row hrow hkey => decide_eq_true <|
        mem_neighbourhood (hd.permit i row hrow (hkey ▸ hp.authored))
    rw [← hfind s h.left, ← hfind s' h.right, h.view.permits]
  have hcheck : ∀ args : PermitRepository.Args R Uuid, args.permitId = p.permitId →
      args.check s' = args.check s := by
    intro args hid
    unfold PermitRepository.Args.check
    rw [h.static.workers, h.static.zones, hid, hexisting]
  rw [hcheck _ rfl]
  refine Transaction.Lockstep.lift_bind fun row hrow => .ok ⟨rfl, ?_⟩
  cases PermitRepository.check_ok hrow
  exact h.permit hT hseeds ⟨hp.authored, hzone⟩

/-- A request persists the same in states that it does not tell apart. -/
theorem persistBuilderScenario_lockstep (hT : Function.Injective T.resolveId)
    (hseeds : DistinctSeeds scenarios) (h : SameFor T base scenarios i s s') :
    Transaction.Lockstep (SameFor T base scenarios i) Eq
      (persistBuilderScenario M T (scenarios i) s) (persistBuilderScenario M T (scenarios i) s') := by
  unfold persistBuilderScenario
  rw [Transaction.get_bind, Transaction.get_bind, validateBuilderScenario_static h.static]
  refine Transaction.Lockstep.lift_bind fun errors _ => ?_
  split
  · exact .ok ⟨rfl, h⟩
  · refine Transaction.Lockstep.bind (r := Eq) ?_ fun rs _ _ _ hrs hs => .ok ⟨by rw [hrs], hs⟩
    unfold persistScenario
    refine Transaction.Lockstep.lift_bind fun readings hgenerated => ?_
    have hreadings : Transaction.Lockstep (SameFor T base scenarios i) (List.Forall₂ Eq)
        (readings.mapM (persistReading T.uuid) s) (readings.mapM (persistReading T.uuid) s') := by
      refine Transaction.Lockstep.mapM (fun r hr s s' hs => ?_) h
      exact persistReading_lockstep hT hseeds (generates_reading hgenerated hr) hs
    refine Transaction.Lockstep.bind hreadings fun _ _ s s' _ hs => ?_
    refine Transaction.Lockstep.lift_bind fun permits hgenerated => ?_
    have hpermits : Transaction.Lockstep (SameFor T base scenarios i) (List.Forall₂ Eq)
        (permits.mapM (persistPermit M T T.uuid (scenarios i) readings) s)
        (permits.mapM (persistPermit M T T.uuid (scenarios i) readings) s') := by
      refine Transaction.Lockstep.mapM (fun p hp s s' hs => ?_) hs
      exact persistPermit_lockstep hT hseeds (generates_permit hgenerated hp) hs
    exact Transaction.Lockstep.bind hpermits fun _ _ s s' _ hs => .ok ⟨rfl, hs⟩

/-! ## What a request writes -/

omit [Field R] [LinearOrder R] [FloorRing R] in
theorem persistReading_writable {r : GeneratedReading R Uuid}
    (hr : Generates T scenario r.readingId r.zoneKey) :
    Transaction.Across (Writes (writable T scenario)) (persistReading T.uuid r) := by
  intro s u t h
  obtain ⟨p, hp, -, rfl⟩ := persistReading_eq_ok.1 ⟨u, h⟩
  have hreading := placeReading_reading hp
  obtain ⟨z, hz, hp⟩ := Except.bind_eq_ok.1 hp
  refine .single (.reading s _ ?_)
  split at hp
  · cases hp
  · cases hp
    exact ⟨hr.authored, hr.zone z (T.uuid_eq_ok.1 hz)⟩

theorem persistBuilderScenario_writable :
    Transaction.Across (Writes (writable T scenario)) (persistBuilderScenario M T scenario) := by
  refine Transaction.across_get_bind fun db => Transaction.across_lift_bind fun errors _ => ?_
  split
  · exact Transaction.closed_across.pure _
  · refine Transaction.closed_across.bind ?_ fun _ => Transaction.closed_across.pure _
    refine Transaction.across_lift_bind fun readings hreadings => ?_
    refine Transaction.closed_across.bind (Transaction.closed_across.mapM fun r hr =>
      persistReading_writable (generates_reading hreadings hr)) fun _ => ?_
    refine Transaction.across_lift_bind fun permits hpermits => ?_
    refine Transaction.closed_across.bind (Transaction.closed_across.mapM fun p hp =>
      persistPermit_writes fun db row hrow => ?_) fun _ => Transaction.closed_across.pure _
    have hgenerates := generates_permit hpermits hp
    refine ⟨?_, hgenerates.zone _ (T.uuid_eq_ok.1 hrow.zoneId)⟩
    rw [hrow.permitId]
    exact hgenerates.authored

end

end ScenarioBuilder
