import IndustrialSafety.Api.Server
import IndustrialSafety.LiveIngestion.Proof.Csv
import IndustrialSafety.Services.Proof.Consistency

/-!
# Requests and engine, in any order

* `handle_cases`: a request fails and changes nothing, or stores the reading it answers with under a new
  key (`Delivers`).
* **`run_consistent`**: every run keeps the database consistent and loses no row.
* **`connectorStatus_run`**: `GET /ingest/status` counts exactly the readings delivered since the process
  started, each of them stored once and never removed.
-/

namespace Api

open Py LiveIngestion

variable {R Uuid : Type} [Field R] [DecidableEq Uuid]

def IngestCounts.of (counts : IngestCounts) : Connector → ℕ
  | .rest => counts.rest
  | .mqtt => counts.mqtt
  | .opcua => counts.opcua

/-- The reading comes from a sensor; a mocked connector reads a fixed fraction of its threshold. -/
def FromSensor (db : Db R Uuid) (p : Connector × SensorReading R Uuid) : Prop :=
  ∃ sensor ∈ db.sensors, sensor.sensorId = p.2.sensorId ∧ sensor.zoneId = p.2.zoneId ∧
    sensor.gasType = p.2.gasType ∧ (p.1 ≠ .rest → p.2.value = sensor.alarmThreshold * (3 / 10))

/-- A request that answers with `reading` leads from `s` to `s'`. -/
structure Delivers (s : State R Uuid) (connector : Connector) (reading : SensorReading R Uuid)
    (s' : State R Uuid) : Prop where
  sensor : FromSensor s.runtime.db (connector, reading)
  constrained : reading.Constrained s.runtime.db
  fresh : s.runtime.db.sensorReadings.get? (reading.readingId, reading.timestamp) = none
  runtime : s'.runtime = { s.runtime with
    db := { s.runtime.db with sensorReadings := s.runtime.db.sensorReadings.upsert reading } }
  counts : ∀ c, s'.ingestCounts.of c = s.ingestCounts.of c + if c = connector then 1 else 0

variable {T : Text R Uuid} {s : State R Uuid}

omit [Field R] [DecidableEq Uuid] in
theorem onDb_cases {α : Type} (raised : Exc → Failure) (m : Session R Uuid α) (s : State R Uuid) :
    (∃ e, onDb raised m s = (.error e, s)) ∨ ∃ a db, m s.runtime.db = .ok (a, db) ∧
      onDb raised m s = (.ok a, { s with runtime := { s.runtime with db } }) := by
  unfold onDb
  rcases m s.runtime.db with e | ⟨a, db⟩
  · exact .inl ⟨raised e, rfl⟩
  · exact .inr ⟨a, db, rfl, rfl⟩

theorem delivers_of_ingestReading {connector : Connector} {readingId sensorId : Uuid} {value : R}
    {unit : Option String} {timestamp : DateTime} {qualityFlag : String} {reading : SensorReading R Uuid}
    {db : Db R Uuid} {counts : IngestCounts}
    (h : ingestReading T readingId sensorId value unit timestamp qualityFlag s.runtime.db =
      .ok (reading, db))
    (hvalue : connector ≠ .rest → ∃ sensor ∈ s.runtime.db.sensors, sensor.sensorId = sensorId ∧
      value = sensor.alarmThreshold * (3 / 10))
    (hcounts : ∀ c, counts.of c = s.ingestCounts.of c + if c = connector then 1 else 0) :
    Delivers s connector reading ⟨{ s.runtime with db }, counts⟩ := by
  obtain ⟨sensor, hmem, hid, hsensor, hzone, hgas, hreading, htime, hread, hrow, hfresh, rfl⟩ :=
    ingestReading_eq_ok h
  refine ⟨⟨sensor, hmem, hid.trans hsensor.symm, hzone.symm, hgas.symm, fun hc => ?_⟩, hrow, ?_, rfl,
    hcounts⟩
  · obtain ⟨sensor', hmem', hid', hvalue⟩ := hvalue hc
    rw [Table.eq_of_key hmem hmem' (hid.trans hid'.symm)]
    exact hread.trans hvalue
  · rw [hreading, htime]
    exact hfresh

theorem ingestReadingEndpoint_cases (body : IngestReadingRequest R) (readingId : Uuid) :
    (∃ e, ingestReadingEndpoint T body readingId s = (.error e, s)) ∨ ∃ reading s',
      ingestReadingEndpoint T body readingId s = (.ok reading, s') ∧ Delivers s .rest reading s' := by
  unfold ingestReadingEndpoint
  cases parseId T "INVALID_SENSOR_ID" body.sensorId with
  | error e => exact .inl ⟨e, rfl⟩
  | ok sensorId =>
    show (∃ e, (onDb _ _ >>= _) s = _) ∨ ∃ reading s', (onDb _ _ >>= _) s = _ ∧ _
    rw [Service.bind_apply]
    rcases onDb_cases sensorNotFound (ingestReading T readingId sensorId body.value (some body.unit)
      body.timestamp body.qualityFlag) s with ⟨e, h⟩ | ⟨reading, db, hm, h⟩ <;> rw [h]
    · exact .inl ⟨e, rfl⟩
    · refine .inr ⟨reading, _, rfl, delivers_of_ingestReading hm (fun h => absurd rfl h) fun c => ?_⟩
      cases c <;> rfl

/-- The sensor was just read: `poll` finds it. -/
theorem poll_eq_ok {config : MockConnectorConfig R Uuid} {readingId : Uuid} {timestamp : DateTime}
    {reading : SensorReading R Uuid} {db db' : Db R Uuid}
    (h : poll T config readingId timestamp db = .ok (reading, db')) :
    ∃ sensor ∈ db.sensors, ingestReading T readingId sensor.sensorId
      (sensor.alarmThreshold * config.valueFractionOfThreshold) (some "ppm") timestamp "ok" db =
        .ok (reading, db') := by
  rw [poll, Transaction.get_bind] at h
  cases hsensor : SensorRepository.get db config.sensorId with
  | none =>
    rw [hsensor] at h
    cases h
  | some sensor =>
    rw [hsensor] at h
    exact ⟨sensor, (Table.get?_eq_some.1 hsensor).1, h⟩

theorem pollMockConnector_cases (protocol : String) (body : MockPollRequest) (readingId : Uuid) :
    (∃ e, pollMockConnector T protocol body readingId s = (.error e, s)) ∨ ∃ reading s',
      pollMockConnector T protocol body readingId s = (.ok reading, s') ∧
        Delivers s (if protocol = "mqtt" then .mqtt else .opcua) reading s' := by
  unfold pollMockConnector
  by_cases hprotocol : protocol ≠ "mqtt" ∧ protocol ≠ "opcua"
  · rw [if_pos hprotocol]
    exact .inl ⟨_, rfl⟩
  rw [if_neg hprotocol]
  cases parseId T "INVALID_ZONE_ID" body.zoneId with
  | error e => exact .inl ⟨e, rfl⟩
  | ok zoneId =>
    show (∃ e, (mockedSensor _ _ _ >>= _) s = _) ∨ ∃ reading s', (mockedSensor _ _ _ >>= _) s = _ ∧ _
    rw [Service.bind_apply, mockedSensor, Service.get_bind]
    cases SensorRepository.getByZoneAndGas s.runtime.db zoneId body.gasType with
    | none => exact .inl ⟨_, rfl⟩
    | some mocked =>
      show (∃ e, (onDb _ _ >>= _) s = _) ∨ ∃ reading s', (onDb _ _ >>= _) s = _ ∧ _
      rw [Service.bind_apply]
      rcases onDb_cases .unexpected (poll T { sensorId := mocked.sensorId } readingId body.timestamp)
        s with ⟨e, h⟩ | ⟨reading, db, hm, h⟩ <;> rw [h]
      · exact .inl ⟨e, rfl⟩
      · obtain ⟨sensor, hmem, hm⟩ := poll_eq_ok hm
        refine .inr ⟨reading, _, rfl,
          delivers_of_ingestReading hm (fun _ => ⟨sensor, hmem, rfl, rfl⟩) fun c => ?_⟩
        by_cases hmqtt : protocol = "mqtt" <;> simp only [hmqtt, if_true, if_false] <;> cases c <;> rfl

theorem handle_cases (r : Request R Uuid) (s : State R Uuid) :
    (∃ e, r.handle T s = (.error e, s)) ∨ ∃ reading s', r.handle T s = (.ok reading, s') ∧
      Delivers s r.connector reading s' := by
  cases r with
  | ingestReading body readingId => exact ingestReadingEndpoint_cases body readingId
  | pollMockConnector protocol body readingId => exact pollMockConnector_cases protocol body readingId

theorem Delivers.sound {connector : Connector} {reading : SensorReading R Uuid} {s' : State R Uuid}
    (h : Delivers s connector reading s') : Sound s.runtime.db s'.runtime.db := by
  obtain ⟨sensor, hmem, hid, hzone, hgas, -⟩ := h.sensor
  rw [h.runtime]
  exact sound_reading h.constrained ⟨sensor, hmem, hid, hzone, hgas⟩

variable [LinearOrder R] [FloorRing R] [IsStrictOrderedRing R] {M : Math R}

/-! ## One action -/

theorem next_sound (s : State R Uuid) (a : Action R Uuid) :
    Sound s.runtime.db (s.next M T a).runtime.db := by
  cases a with
  | request r =>
    show Sound _ (r.handle T s).2.runtime.db
    rcases handle_cases (T := T) r s with ⟨e, h⟩ | ⟨reading, s', h, hdelivers⟩ <;> rw [h]
    · exact Std.Refl.refl _
    · exact hdelivers.sound
  | engine a => exact Runtime.State.next_sound _ a

theorem delivered_eq_some {a : Action R Uuid} {p : Connector × SensorReading R Uuid}
    (h : s.delivered T a = some p) : Delivers s p.1 p.2 (s.next M T a) := by
  cases a with
  | request r =>
    rw [State.delivered] at h
    rw [State.next]
    rcases handle_cases (T := T) r s with ⟨e, hr⟩ | ⟨reading, s', hr, hdelivers⟩ <;> rw [hr] at h ⊢
    · cases h
    · cases h
      exact hdelivers
  | engine a => cases h

theorem next_counts (s : State R Uuid) (a : Action R Uuid) (c : Connector) :
    (s.next M T a).ingestCounts.of c =
      s.ingestCounts.of c + (s.delivered T a).toList.countP fun p => p.1 = c := by
  cases a with
  | request r =>
    rw [State.delivered, State.next]
    rcases handle_cases (T := T) r s with ⟨e, hr⟩ | ⟨reading, s', hr, hdelivers⟩ <;> rw [hr]
    · rfl
    · rw [hdelivers.counts c]
      by_cases hc : r.connector = c
      · simp [Except.toOption, hc]
      · simp [Except.toOption, hc, Ne.symm hc]
  | engine a => rfl

/-! ## Runs -/

def Stored (s : State R Uuid) (k : Uuid × Instant) : Prop :=
  (s.runtime.db.sensorReadings.get? k).isSome

theorem run_sound (s : State R Uuid) (actions : List (Action R Uuid)) :
    Sound s.runtime.db (s.run M T actions).runtime.db := by
  induction actions generalizing s with
  | nil => exact Std.Refl.refl _
  | cons a actions ih => exact IsTrans.trans _ _ _ (next_sound s a) (ih (s.next M T a))

/-- Whatever requests and writes a process has served: the database stays consistent, the plant is the one
it was started with, and no reading, permit or assessment is gone. -/
theorem run_consistent (M : Math R) (T : Text R Uuid) {s : State R Uuid}
    (hs : Consistent s.runtime.db) (actions : List (Action R Uuid)) :
    Consistent (s.run M T actions).runtime.db ∧
      SameStatic s.runtime.db (s.run M T actions).runtime.db ∧
      Keeps.Rows s.runtime.db.sensorReadings (s.run M T actions).runtime.db.sensorReadings ∧
      Keeps.Rows s.runtime.db.permits (s.run M T actions).runtime.db.permits ∧
      Keeps.Rows s.runtime.db.riskAssessments (s.run M T actions).runtime.db.riskAssessments := by
  obtain ⟨hstatic, hreadings, hpermits, hassessments, hconsistent⟩ :=
    run_sound (M := M) (T := T) s actions
  exact ⟨hconsistent hs, hstatic, hreadings, hpermits, hassessments⟩

/-- A polled sensor, then a tick of its zone. -/
def pollThenTick : List (Action ℚ ℕ) := [
  .request (.pollMockConnector "mqtt" ⟨"1", "CO", ⟨0, 0⟩⟩ 100),
  .engine (.tick 0 1 "CO" ⟨60000000, 0⟩ 0)]

def plantThen (actions : List (Action ℚ ℕ)) : Db ℚ ℕ :=
  (State.run Math.dyadic plainText ⟨.seeded Runtime.plant, {}⟩ actions).runtime.db

theorem plant_consistent : Consistent Runtime.plant :=
  ⟨LiveIngestion.plant_constrained, fun _ h => (by cases h), fun _ h => (by cases h)⟩

theorem run_consistent_pollThenTick : Consistent (plantThen pollThenTick) ∧
    (plantThen pollThenTick).sensorReadings.rows.map (fun r => (r.zoneId, r.value)) = [(1, 3)] ∧
    (plantThen pollThenTick).riskAssessments.rows.length = 1 :=
  ⟨(run_consistent Math.dyadic plainText (s := ⟨.seeded Runtime.plant, {}⟩) plant_consistent
    pollThenTick).1, by decide +kernel, by decide +kernel⟩

theorem run_counts (s : State R Uuid) (actions : List (Action R Uuid)) (c : Connector) :
    (s.run M T actions).ingestCounts.of c =
      s.ingestCounts.of c + (s.deliveries M T actions).countP fun p => p.1 = c := by
  unfold State.run State.deliveries
  exact Run.outputs_count (fun s : State R Uuid => s.ingestCounts.of c) _ fun s' a =>
    next_counts s' a c

theorem deliveries_fromSensor (s : State R Uuid) (actions : List (Action R Uuid)) :
    ∀ p ∈ s.deliveries M T actions, FromSensor s.runtime.db p := by
  have hstep : ∀ (s' : State R Uuid) a, s'.runtime.db.sensors = s.runtime.db.sensors →
      (s'.next M T a).runtime.db.sensors = s.runtime.db.sensors := fun s' a h =>
    (next_sound s' a).static.sensors.trans h
  unfold State.deliveries
  refine Run.outputs_forall hstep (fun s' a p hs' hp => ?_) rfl
  rw [FromSensor, ← hs']
  exact (delivered_eq_some (M := M) hp).sensor

/-- Whatever else the process served since it was started: the status counts the readings that the requests
of each connector delivered, and these are as many rows of the database, each from a sensor and under a
key of its own. -/
theorem connectorStatus_run (M : Math R) (T : Text R Uuid) (runtime : Runtime.State R Uuid)
    (actions : List (Action R Uuid)) :
    (getConnectorStatus (State.run M T ⟨runtime, {}⟩ actions).ingestCounts).map (fun status =>
        (status.protocol, status.readingsIngestedThisProcess)) =
      [("CSV", 0),
        ("HTTP", (State.deliveries M T ⟨runtime, {}⟩ actions).countP fun p => p.1 = .rest),
        ("MQTT", (State.deliveries M T ⟨runtime, {}⟩ actions).countP fun p => p.1 = .mqtt),
        ("OPC-UA", (State.deliveries M T ⟨runtime, {}⟩ actions).countP fun p => p.1 = .opcua)] ∧
    ((State.deliveries M T ⟨runtime, {}⟩ actions).map fun p =>
      (p.2.readingId, p.2.timestamp)).Nodup ∧
    ∀ p ∈ State.deliveries M T ⟨runtime, {}⟩ actions, FromSensor runtime.db p ∧
      runtime.db.sensorReadings.get? (p.2.readingId, p.2.timestamp) = none ∧
      Stored (State.run M T ⟨runtime, {}⟩ actions) (p.2.readingId, p.2.timestamp) := by
  have hkeep : ∀ (s : State R Uuid) a k, Stored s k → Stored (s.next M T a) k := fun s a _ h =>
    (next_sound s a).sensorReadings.isSome h
  have hstored : ∀ (s : State R Uuid) a p, s.delivered T a = some p →
      ¬ Stored s (p.2.readingId, p.2.timestamp) ∧
        Stored (s.next M T a) (p.2.readingId, p.2.timestamp) := by
    intro s a p h
    have hdelivers := delivered_eq_some (M := M) h
    refine ⟨fun h => ?_, ?_⟩
    · rw [Stored, hdelivers.fresh] at h
      cases h
    · rw [Stored, hdelivers.runtime]
      show (Table.get? _ _).isSome
      rw [Table.get?_upsert, if_pos rfl]
      rfl
  have hnodup := Run.outputs_nodup (l := actions) (s := ⟨runtime, {}⟩) hkeep hstored
  refine ⟨?_, hnodup, fun p hp => ⟨deliveries_fromSensor _ _ p hp, ?_⟩⟩
  · have hcount := run_counts (M := M) (T := T) ⟨runtime, {}⟩ actions
    have hrest := hcount .rest
    have hmqtt := hcount .mqtt
    have hopcua := hcount .opcua
    simp only [IngestCounts.of, Nat.zero_add] at hrest hmqtt hopcua
    simp only [getConnectorStatus, List.map_cons, List.map_nil, hrest, hmqtt, hopcua]
  · obtain ⟨hnew, hend⟩ := Run.outputs_stored hkeep hstored p hp
    exact ⟨Option.not_isSome_iff_eq_none.1 hnew, hend⟩

theorem connectorStatus_run_pollThenTick :
    (getConnectorStatus (State.run Math.dyadic plainText ⟨.seeded Runtime.plant, {}⟩
      pollThenTick).ingestCounts).map (fun status =>
        (status.protocol, status.readingsIngestedThisProcess)) =
      [("CSV", 0), ("HTTP", 0), ("MQTT", 1), ("OPC-UA", 0)] ∧
    ∀ p ∈ State.deliveries Math.dyadic plainText ⟨.seeded Runtime.plant, {}⟩ pollThenTick,
      Stored (State.run Math.dyadic plainText ⟨.seeded Runtime.plant, {}⟩ pollThenTick)
        (p.2.readingId, p.2.timestamp) := by
  obtain ⟨hstatus, -, hdelivered⟩ :=
    connectorStatus_run Math.dyadic plainText (.seeded Runtime.plant) pollThenTick
  exact ⟨hstatus.trans (by decide +kernel), fun p hp => (hdelivered p hp).2.2⟩

end Api
