import IndustrialSafety.Lib.StableSort
import IndustrialSafety.Simulation.Proof.Generator

/-!
# Events in another order

The readings of a scenario are those of its events, one event after the other in the order of their start
offsets (`generateSensorReadings_eq_ok`). Where no two readings of a zone have one timestamp, no two of its
events have one offset, so the order in which the events are authored does not change the readings of any
zone (`Orderly.sameZoneReadings`). It only decides which of two zones that start together comes
first (`not_startsBefore_of_prefix`).
-/

namespace Simulation

open Py

variable {R Uuid : Type} [Field R] [LinearOrder R] [FloorRing R] {M : Math R} {T : Text R Uuid}
  {scenario scenario' : Scenario R} {readings readings' : List (GeneratedReading R Uuid)}

/-- The same events in another order. -/
structure Reordered (scenario scenario' : Scenario R) : Prop where
  seed : scenario'.seed = scenario.seed
  startTime : scenario'.startTime = scenario.startTime
  sensorEvents : scenario.sensorEvents.Perm scenario'.sensorEvents
  permitEvents : scenario.permitEvents.Perm scenario'.permitEvents

omit [Field R] [LinearOrder R] [FloorRing R] in
theorem Reordered.symm (h : Reordered scenario scenario') : Reordered scenario' scenario :=
  ⟨h.seed.symm, h.startTime.symm, h.sensorEvents.symm, h.permitEvents.symm⟩

omit [FloorRing R] in
theorem Reordered.validateStructure (h : Reordered scenario scenario')
    (hvalid : validateStructure M scenario = .ok ()) : validateStructure M scenario' = .ok () := by
  rw [validateStructure_eq_ok] at hvalid ⊢
  obtain ⟨hnames, hevents, hpermits⟩ := hvalid
  refine ⟨?_, fun e he => hevents e (h.sensorEvents.mem_iff.2 he), fun e he =>
    hpermits e (h.permitEvents.mem_iff.2 he)⟩
  exact ((h.sensorEvents.map _).append (h.permitEvents.map _)).nodup_iff.1 hnames

/-! ## The readings of the events -/

/-- The events in the order of their readings. -/
def sortedEvents (scenario : Scenario R) : List (SensorEvent R) :=
  scenario.sensorEvents.insertionSort fun a b => a.simTime ≤ b.simTime

/-- The readings of an event that has any. -/
def eventReadings (M : Math R) (T : Text R Uuid) (seed : Int) (start : DateTime)
    (event : SensorEvent R) : List (GeneratedReading R Uuid) :=
  ((generateEventReadings M T seed start event).toOption).getD []

theorem generateSensorReadings_eq_ok : generateSensorReadings M T scenario = .ok readings ↔
    ∃ start, T.datetime scenario.startTime = .ok start ∧
      (∀ event ∈ scenario.sensorEvents, generateEventReadings M T scenario.seed start event =
        .ok (eventReadings M T scenario.seed start event)) ∧
      readings = (sortedEvents scenario).flatMap (eventReadings M T scenario.seed start) := by
  unfold generateSensorReadings
  rw [Except.bind_eq_ok]
  refine exists_congr fun start => and_congr_right fun _ => ?_
  rw [Except.bind_eq_ok]
  constructor
  · rintro ⟨parts, hparts, h⟩
    cases h
    have hall := Except.mapM_eq_ok.1 hparts
    have hpart : ∀ event part, generateEventReadings M T scenario.seed start event = .ok part →
        part = eventReadings M T scenario.seed start event := by
      intro event part h
      rw [eventReadings, h]
      rfl
    refine ⟨fun event hevent => ?_, ?_⟩
    · obtain ⟨part, -, h⟩ := hall.exists_of_mem_left ((List.mem_insertionSort _).2 hevent)
      rw [h, hpart event part h]
    · rw [List.flatMap_def]
      congr 1
      have hmap := Except.map_eq_of_mapM (g := id) (h := eventReadings M T scenario.seed start) hparts
        hpart
      rwa [List.map_id] at hmap
  · rintro ⟨hevents, rfl⟩
    refine ⟨_, Except.mapM_ok fun event hevent => hevents event ((List.mem_insertionSort _).1 hevent),
      ?_⟩
    rw [List.flatMap_def]
    rfl

theorem Reordered.generateSensorReadings (h : Reordered scenario scenario')
    (hreadings : generateSensorReadings M T scenario = .ok readings) :
    ∃ readings', generateSensorReadings M T scenario' = .ok readings' ∧ readings.Perm readings' := by
  obtain ⟨start, hstart, hevents, rfl⟩ := generateSensorReadings_eq_ok.1 hreadings
  refine ⟨_, generateSensorReadings_eq_ok.2 ⟨start, h.startTime.symm ▸ hstart, fun event hevent => ?_,
    rfl⟩, ?_⟩
  · rw [h.seed]
    exact hevents event (h.sensorEvents.mem_iff.2 hevent)
  · rw [h.seed]
    refine List.Perm.flatMap_right _ ?_
    exact (List.perm_insertionSort _ _).trans (h.sensorEvents.trans (List.perm_insertionSort _ _).symm)

theorem Reordered.generatePermits (h : Reordered scenario scenario')
    {permits : List (GeneratedPermit Uuid)} (hpermits : generatePermits T scenario = .ok permits) :
    ∃ permits', generatePermits T scenario' = .ok permits' ∧ permits.Perm permits' := by
  obtain ⟨start, hstart, hdated, rfl⟩ := generatePermits_eq_ok.1 hpermits
  refine ⟨_, generatePermits_eq_ok.2 ⟨start, h.startTime.symm ▸ hstart, fun event hevent => ?_, rfl⟩, ?_⟩
  · exact hdated event (h.permitEvents.mem_iff.2 hevent)
  · rw [Scenario.permits, Scenario.permits, h.seed]
    exact h.permitEvents.map _

/-! ## The readings of a zone -/

/-- Each zone has the same readings in the same order. -/
def SameZoneReadings [DecidableEq Uuid] (T : Text R Uuid)
    (readings readings' : List (GeneratedReading R Uuid)) : Prop :=
  ∀ zoneId : Option Uuid, readings'.filter (fun r => T.uuidOfStr r.zoneKey = zoneId) =
    readings.filter fun r => T.uuidOfStr r.zoneKey = zoneId

/-- Each zone has events of one gas type, and no two readings share a zone and timestamp. -/
structure Orderly (M : Math R) (T : Text R Uuid) (scenario : Scenario R) : Prop where
  oneGas : ∀ e ∈ scenario.sensorEvents, ∀ e' ∈ scenario.sensorEvents,
    T.uuidOfStr e.zoneKey = T.uuidOfStr e'.zoneKey → e.gasType = e'.gasType
  distinct : ∀ readings, generateSensorReadings M T scenario = .ok readings →
    (readings.map fun r => (T.uuidOfStr r.zoneKey, r.timestamp.instant)).Nodup

instance [DecidableEq Uuid] (M : Math R) (T : Text R Uuid) (scenario : Scenario R) :
    Decidable (Orderly M T scenario) :=
  match hreadings : generateSensorReadings M T scenario with
  | .error _ => decidable_of_iff (∀ e ∈ scenario.sensorEvents, ∀ e' ∈ scenario.sensorEvents,
      T.uuidOfStr e.zoneKey = T.uuidOfStr e'.zoneKey → e.gasType = e'.gasType)
    ⟨fun h => ⟨h, by simp [hreadings]⟩, fun h => h.oneGas⟩
  | .ok readings => decidable_of_iff ((∀ e ∈ scenario.sensorEvents, ∀ e' ∈ scenario.sensorEvents,
      T.uuidOfStr e.zoneKey = T.uuidOfStr e'.zoneKey → e.gasType = e'.gasType) ∧
        (readings.map fun r => (T.uuidOfStr r.zoneKey, r.timestamp.instant)).Nodup)
    ⟨fun h => ⟨h.1, by simpa [hreadings] using h.2⟩, fun h => ⟨h.oneGas, h.distinct _ hreadings⟩⟩

theorem Reordered.orderly (h : Reordered scenario scenario') (horderly : Orderly M T scenario) :
    Orderly M T scenario' := by
  refine ⟨fun e he e' he' => horderly.oneGas e (h.sensorEvents.mem_iff.2 he) e'
    (h.sensorEvents.mem_iff.2 he'), fun readings' hreadings' => ?_⟩
  obtain ⟨readings, hreadings, hperm⟩ := h.symm.generateSensorReadings hreadings'
  exact ((hperm.map _).nodup_iff).2 (horderly.distinct readings hreadings)

section
variable {seed : Int} {start : DateTime} {event : SensorEvent R}

theorem eventReadings_zone {r : GeneratedReading R Uuid} (hr : r ∈ eventReadings M T seed start event) :
    r.zoneKey = event.zoneKey ∧ r.gasType = event.gasType := by
  unfold eventReadings at hr
  cases hpart : generateEventReadings M T seed start event with
  | error e =>
    rw [hpart] at hr
    cases hr
  | ok part =>
    rw [hpart] at hr
    obtain ⟨_, -, hsampled⟩ := generateEventReadings_sampled hpart
    obtain ⟨hzone, hgas, -⟩ := hsampled.reading r hr
    exact ⟨hzone, hgas⟩

variable [IsStrictOrderedRing R]

/-- The first reading of an event. -/
theorem exists_first_reading (hvalid : event.Valid)
    (hpart : generateEventReadings M T seed start event = .ok (eventReadings M T seed start event)) :
    ∃ r ∈ eventReadings M T seed start event,
      r.timestamp.instant = start.instant + timedeltaMinutes event.simTime := by
  have htimes := generateEventReadings_timestamps hpart
  have hsteps : 0 ≤ numSteps event :=
    Int.floor_nonneg.2 (div_nonneg hvalid.durationMinutes.le hvalid.sampleIntervalMinutes.le)
  have hfirst : start.instant + timedeltaMinutes event.simTime ∈
      (eventReadings M T seed start event).map (·.timestamp.instant) := by
    rw [htimes, List.mem_map]
    exact ⟨0, List.mem_range.2 (by omega), by simp⟩
  obtain ⟨r, hr, htime⟩ := List.mem_map.1 hfirst
  exact ⟨r, hr, htime⟩

/-- Two events of a zone do not start together. -/
theorem Orderly.event_eq (horderly : Orderly M T scenario)
    (hstructure : Simulation.validateStructure M scenario = .ok ())
    (hreadings : generateSensorReadings M T scenario = .ok readings) {a b : SensorEvent R}
    (ha : a ∈ scenario.sensorEvents) (hb : b ∈ scenario.sensorEvents)
    (hzone : T.uuidOfStr a.zoneKey = T.uuidOfStr b.zoneKey) (htime : a.simTime = b.simTime) :
    a = b := by
  have hvalid := validateStructure_valid hstructure
  have hdistinct := horderly.distinct readings hreadings
  obtain ⟨start, -, hevents, rfl⟩ := generateSensorReadings_eq_ok.1 hreadings
  rw [List.map_flatMap, List.nodup_flatMap] at hdistinct
  by_contra hne
  have hsymm : Std.Symm (Function.onFun List.Disjoint fun e => (eventReadings M T scenario.seed start
      e).map fun r => (T.uuidOfStr r.zoneKey, r.timestamp.instant)) :=
    ⟨fun _ _ h => h.symm⟩
  have hdisjoint := hdistinct.2.forall ((List.mem_insertionSort _).2 ha)
    ((List.mem_insertionSort _).2 hb) hne
  obtain ⟨r, hr, hrtime⟩ := exists_first_reading (hvalid.sensorEvent a ha) (hevents a ha)
  obtain ⟨r', hr', hrtime'⟩ := exists_first_reading (hvalid.sensorEvent b hb) (hevents b hb)
  refine hdisjoint (List.mem_map_of_mem hr) (List.mem_map.2 ⟨r', hr', ?_⟩)
  rw [(eventReadings_zone hr).1, (eventReadings_zone hr').1, hrtime, hrtime', hzone, htime]

theorem Orderly.sameZoneReadings [DecidableEq Uuid] (horderly : Orderly M T scenario)
    (h : Reordered scenario scenario') (hstructure : Simulation.validateStructure M scenario = .ok ())
    (hreadings : generateSensorReadings M T scenario = .ok readings)
    (hreadings' : generateSensorReadings M T scenario' = .ok readings') :
    SameZoneReadings T readings readings' := by
  intro zoneId
  have hsorted : (sortedEvents scenario).filter (fun e => T.uuidOfStr e.zoneKey = zoneId) =
      (sortedEvents scenario').filter fun e => T.uuidOfStr e.zoneKey = zoneId := by
    refine StableSort.filter_insertionSort_perm h.sensorEvents fun a ha b hb hza hzb hab => ?_
    exact horderly.event_eq hstructure hreadings ha hb
      ((of_decide_eq_true hza).trans (of_decide_eq_true hzb).symm) hab
  have hfilter : ∀ (start : DateTime) (events : List (SensorEvent R)),
      (events.flatMap (eventReadings M T scenario.seed start)).filter (fun r =>
        T.uuidOfStr r.zoneKey = zoneId) = (events.filter fun e =>
          T.uuidOfStr e.zoneKey = zoneId).flatMap (eventReadings M T scenario.seed start) := by
    intro start events
    induction events with
    | nil => rfl
    | cons e events ih =>
      rw [List.flatMap_cons, List.filter_append, ih, List.filter_cons]
      have hpart : ∀ r ∈ eventReadings M T scenario.seed start e,
          (T.uuidOfStr r.zoneKey = zoneId ↔ T.uuidOfStr e.zoneKey = zoneId) := fun r hr => by
        rw [(eventReadings_zone hr).1]
      by_cases hz : T.uuidOfStr e.zoneKey = zoneId
      · rw [if_pos (decide_eq_true hz), List.flatMap_cons, List.filter_eq_self.2 fun r hr =>
          decide_eq_true ((hpart r hr).2 hz)]
      · rw [if_neg (mt of_decide_eq_true hz), List.filter_eq_nil_iff.2 fun r hr =>
          mt of_decide_eq_true (mt (hpart r hr).1 hz), List.nil_append]
  obtain ⟨start, hstart, -, rfl⟩ := generateSensorReadings_eq_ok.1 hreadings
  obtain ⟨start', hstart', -, rfl⟩ := generateSensorReadings_eq_ok.1 hreadings'
  rw [h.startTime] at hstart'
  cases hstart.symm.trans hstart'
  rw [h.seed, hfilter, hfilter, hsorted]

end

/-! ## The order of the zones -/

/-- The zone has an event before all events of the other one. -/
def StartsBefore (T : Text R Uuid) (scenario : Scenario R) (zone zone' : Option Uuid) : Prop :=
  ∃ e ∈ scenario.sensorEvents, T.uuidOfStr e.zoneKey = zone ∧
    ∀ e' ∈ scenario.sensorEvents, T.uuidOfStr e'.zoneKey = zone' → e.simTime < e'.simTime

instance [DecidableEq Uuid] (zone zone' : Option Uuid) :
    Decidable (StartsBefore T scenario zone zone') :=
  inferInstanceAs (Decidable (∃ e ∈ scenario.sensorEvents, _))

/-- The zones of two events start together. -/
def Tied (T : Text R Uuid) (scenario : Scenario R) (e e' : SensorEvent R) : Prop :=
  T.uuidOfStr e.zoneKey ≠ T.uuidOfStr e'.zoneKey ∧
    ¬StartsBefore T scenario (T.uuidOfStr e.zoneKey) (T.uuidOfStr e'.zoneKey) ∧
      ¬StartsBefore T scenario (T.uuidOfStr e'.zoneKey) (T.uuidOfStr e.zoneKey)

instance [DecidableEq Uuid] (e e' : SensorEvent R) : Decidable (Tied T scenario e e') :=
  inferInstanceAs (Decidable (_ ∧ _))

omit [Field R] [FloorRing R] in
theorem Reordered.startsBefore (h : Reordered scenario scenario') {zone zone' : Option Uuid} :
    StartsBefore T scenario' zone zone' ↔ StartsBefore T scenario zone zone' := by
  unfold StartsBefore
  simp only [h.sensorEvents.mem_iff]

omit [Field R] [FloorRing R] in
/-- A zone that has its first event here does not start before the ones that had theirs. -/
theorem not_startsBefore_of_prefix {front : List (SensorEvent R)} {e e' : SensorEvent R}
    (hfront : front ++ [e] <+: sortedEvents scenario)
    (hnew : ∀ f ∈ front, T.uuidOfStr f.zoneKey ≠ T.uuidOfStr e.zoneKey) (he' : e' ∈ front) :
    ¬StartsBefore T scenario (T.uuidOfStr e.zoneKey) (T.uuidOfStr e'.zoneKey) := by
  rintro ⟨f, hf, hzone, hbefore⟩
  obtain ⟨back, hback⟩ := hfront
  rw [List.append_assoc] at hback
  have hmem : ∀ x, x ∈ scenario.sensorEvents ↔ x ∈ front ++ ([e] ++ back) := fun x => by
    rw [hback, sortedEvents, List.mem_insertionSort]
  have htotal : Std.Total fun a b : SensorEvent R => a.simTime ≤ b.simTime :=
    ⟨fun a b => le_total a.simTime b.simTime⟩
  have htrans : IsTrans (SensorEvent R) fun a b => a.simTime ≤ b.simTime :=
    ⟨fun _ _ _ hab hbc => hab.trans hbc⟩
  have hsorted : (front ++ ([e] ++ back)).Pairwise fun a b => a.simTime ≤ b.simTime := by
    rw [hback]
    exact List.pairwise_insertionSort _ _
  have hlater : f ∈ [e] ++ back := by
    rcases List.mem_append.1 ((hmem f).1 hf) with hf | hf
    · exact absurd hzone (hnew f hf)
    · exact hf
  have hle := (List.pairwise_append.1 hsorted).2.2 e' he' f hlater
  exact absurd (hbefore e' ((hmem e').2 (List.mem_append_left _ he')) rfl) (not_lt.2 hle)

end Simulation
