import IndustrialSafety.Simulation.Generator
import Mathlib.Tactic.Ring

/-!
# What the generator produces

* `validateStructure_eq_ok`: an accepted scenario's events are `Valid`.
* `generateSensorReadings_total`: the generator returns on such a scenario.
* `generateEventReadings_timestamps`: an event's readings are `timedelta(sample_interval)` apart.
* `generatePermits_eq_ok`: the permits are generated unless a time overflows.
-/

namespace Simulation

open Py

variable {R Uuid : Type} [Field R] [LinearOrder R]

/-! ## Time -/

section
variable [FloorRing R] [IsStrictOrderedRing R]

omit [IsStrictOrderedRing R] in
theorem roundHalfEven_nonneg {x : R} (hx : 0 ≤ x) : 0 ≤ roundHalfEven x := by
  have := Int.floor_nonneg.2 hx
  unfold roundHalfEven
  split_ifs <;> omega

theorem timedeltaMinutes_nonneg {x : R} (hx : 0 ≤ x) : 0 ≤ timedeltaMinutes x :=
  roundHalfEven_nonneg (by positivity)

end

/-! ## Validation -/

/-- A sensor event the validation accepts. -/
structure SensorEvent.Valid (event : SensorEvent R) : Prop where
  simTime : 0 ≤ event.simTime
  durationMinutes : 0 < event.durationMinutes
  sampleIntervalMinutes : 0 < event.sampleIntervalMinutes
  params : ∃ required, curveRequiredParams event.curve = .ok required ∧
    ∀ name ∈ required, name ∈ event.params.map Prod.fst

/-- A permit event the validation accepts. -/
structure PermitEvent.Valid (event : PermitEvent R) : Prop where
  simTime : 0 ≤ event.simTime
  durationMinutes : 0 < event.durationMinutes

variable {M : Math R} {T : Text R Uuid}

theorem validateSensorEvent_valid {event : SensorEvent R}
    (h : validateSensorEvent M event = .ok ()) : event.Valid := by
  unfold validateSensorEvent at h
  dsimp only at h
  split at h
  · cases h
  rename_i hsim
  split at h
  · cases h
  rename_i hduration
  split at h
  · cases h
  rename_i hinterval
  split at h
  · cases h
  obtain ⟨required, hrequired, h⟩ := Except.bind_eq_ok.1 h
  refine ⟨not_lt.1 hsim, not_le.1 hduration, not_le.1 hinterval, required, hrequired, ?_⟩
  split at h
  · cases h
  rename_i hmissing
  intro name hname
  simpa using List.filter_eq_nil_iff.1 (not_not.1 hmissing) name hname

theorem validatePermitEvent_valid {event : PermitEvent R}
    (h : validatePermitEvent event = .ok ()) : event.Valid := by
  unfold validatePermitEvent at h
  dsimp only at h
  split at h
  · cases h
  rename_i hsim
  split at h
  · cases h
  rename_i hduration
  exact ⟨not_lt.1 hsim, not_le.1 hduration⟩

/-- What the validation promises of a scenario. -/
structure Scenario.Valid (scenario : Scenario R) : Prop where
  sensorEvent : ∀ event ∈ scenario.sensorEvents, event.Valid
  permitEvent : ∀ event ∈ scenario.permitEvents, event.Valid

theorem validateStructure_valid {scenario : Scenario R}
    (h : validateStructure M scenario = .ok ()) : scenario.Valid := by
  obtain ⟨_, -, h⟩ := Except.bind_eq_ok.1 h
  obtain ⟨_, hsensor, hpermit⟩ := Except.bind_eq_ok.1 h
  exact ⟨fun event he => validateSensorEvent_valid (Except.forM_eq_ok.1 hsensor event he),
    fun event he => validatePermitEvent_valid (Except.forM_eq_ok.1 hpermit event he)⟩

theorem validateSensorEvent_eq_ok {event : SensorEvent R} :
    validateSensorEvent M event = .ok () ↔ event.Valid := by
  refine ⟨validateSensorEvent_valid, fun h => ?_⟩
  obtain ⟨required, hrequired, hparams⟩ := h.params
  have hcurve : event.curve ∈ (curveRegistry M).map Prod.fst := by
    unfold curveRequiredParams at hrequired
    split at hrequired
    · simp [curveRegistry, *]
    · simp [curveRegistry, *]
    · simp [curveRegistry, *]
    · cases hrequired
  have hmissing : required.filter (· ∉ event.params.map Prod.fst) = [] := by
    refine List.filter_eq_nil_iff.2 fun name hname => ?_
    simpa using hparams name hname
  unfold validateSensorEvent
  simp only [not_lt.2 h.simTime, not_le.2 h.durationMinutes, not_le.2 h.sampleIntervalMinutes, hcurve,
    not_true_eq_false, if_false, hrequired, Except.ok_bind, hmissing, ne_eq]
  rfl

theorem validatePermitEvent_eq_ok {event : PermitEvent R} :
    validatePermitEvent event = .ok () ↔ event.Valid := by
  refine ⟨validatePermitEvent_valid, fun h => ?_⟩
  unfold validatePermitEvent
  simp only [not_lt.2 h.simTime, not_le.2 h.durationMinutes, if_false]
  rfl

theorem validateNames_eq_ok {seenNames names : List String} :
    validateNames seenNames names = .ok () ↔ names.Nodup ∧ ∀ name ∈ names, name ∉ seenNames := by
  induction names generalizing seenNames with
  | nil => simp [validateNames]
  | cons name names ih =>
    unfold validateNames
    by_cases hseen : name ∈ seenNames
    · simp [hseen]
    · simp only [hseen, if_false, ih, List.nodup_cons, List.mem_cons, not_or]
      grind

/-- A scenario is structurally valid iff its names are distinct and each event is valid. -/
theorem validateStructure_eq_ok {scenario : Scenario R} : validateStructure M scenario = .ok () ↔
    (scenario.sensorEvents.map SensorEvent.name ++ scenario.permitEvents.map PermitEvent.name).Nodup ∧
      scenario.Valid := by
  constructor
  · intro h
    obtain ⟨_, hnames, -⟩ := Except.bind_eq_ok.1 h
    exact ⟨(validateNames_eq_ok.1 hnames).1, validateStructure_valid h⟩
  · rintro ⟨hnames, hvalid⟩
    refine Except.bind_eq_ok.2 ⟨(), validateNames_eq_ok.2 ⟨hnames, by simp⟩,
      Except.bind_eq_ok.2 ⟨(), Except.forM_eq_ok.2 fun event he => ?_,
        Except.forM_eq_ok.2 fun event he => ?_⟩⟩
    · exact validateSensorEvent_eq_ok.2 (hvalid.sensorEvent event he)
    · exact validatePermitEvent_eq_ok.2 (hvalid.permitEvent event he)

/-! ## Curves -/

omit [Field R] [LinearOrder R] in
theorem Params.get_total {params : Params R} {name : String}
    (h : name ∈ params.map Prod.fst) : ∃ x, params.get name = .ok x := by
  obtain ⟨⟨name', x⟩, hmem, rfl⟩ := List.mem_map.1 h
  have : (params.lookup name').isSome := by
    rw [List.lookup_isSome_iff]
    exact ⟨_, hmem, by simp⟩
  obtain ⟨y, hy⟩ := Option.isSome_iff_exists.1 this
  exact ⟨y, by rw [Params.get, hy]; rfl⟩

/-- A registered curve returns when its required parameters are given. -/
theorem curve_total {curve : String} {required : List String} {params : Params R}
    (h : curveRequiredParams curve = .ok required)
    (hparams : ∀ name ∈ required, name ∈ params.map Prod.fst) :
    ∃ curveFn, (curveRegistry M).lookup curve = some curveFn ∧
      ∀ t, ∃ value, curveFn t params = .ok value := by
  unfold curveRequiredParams at h
  split at h
  · cases h
    refine ⟨exponentialRise M, rfl, fun t => ?_⟩
    exact Except.bind_total (Params.get_total (hparams _ (by simp))) fun _ _ =>
      Except.bind_total (Params.get_total (hparams _ (by simp))) fun _ _ => ⟨_, rfl⟩
  · cases h
    refine ⟨linearRamp, rfl, fun t => ?_⟩
    exact Except.bind_total (Params.get_total (hparams _ (by simp))) fun _ _ =>
      Except.bind_total (Params.get_total (hparams _ (by simp))) fun _ _ => ⟨_, rfl⟩
  · cases h
    refine ⟨step, rfl, fun t => Except.bind_total (Params.get_total (hparams _ (by simp))) ?_⟩
    intro stepTime _
    split
    · exact Params.get_total (hparams _ (by simp))
    · exact Params.get_total (hparams _ (by simp))
  · cases h

/-! ## Readings -/

section
variable [FloorRing R] {seed : Int} {event : SensorEvent R} {curveFn : CurveFunction R}

/-- The number of steps of an event's loop after the first reading. -/
def numSteps (event : SensorEvent R) : Int :=
  ⌊event.durationMinutes / event.sampleIntervalMinutes⌋

/-- The clock of the event's loop keeps between the years 1 and 9999. It is advanced after the last reading
too. -/
def SensorEvent.Clocked (start : DateTime) (event : SensorEvent R) : Prop :=
  ∀ i : ℕ, i ≤ (numSteps event + 1).toNat → ((start.addMinutes event.simTime).addMicroseconds
    (i * timedeltaMinutes event.sampleIntervalMinutes)).InRange

instance (start : DateTime) (event : SensorEvent R) : Decidable (event.Clocked start) :=
  inferInstanceAs (Decidable (∀ i : ℕ, i ≤ _ → _))

theorem sampleEvent_total (hcurve : ∀ t, ∃ value, curveFn t event.params = .ok value) :
    ∀ (count tickIndex : Nat) (now : DateTime),
      ∃ readings, sampleEvent T seed event curveFn count tickIndex now = .ok readings
  | 0, _, _ => ⟨[], rfl⟩
  | count + 1, _, _ => Except.bind_total (hcurve _) fun _ _ =>
      Except.bind_total (sampleEvent_total hcurve count _ _) fun _ _ => ⟨_, rfl⟩

/-- The readings of a loop follow its clock. -/
theorem sampleEvent_timestamps : ∀ {count tickIndex : Nat} {now : DateTime}
    {readings : List (GeneratedReading R Uuid)},
    sampleEvent T seed event curveFn count tickIndex now = .ok readings →
      readings.map (·.timestamp.instant) = (List.range count).map fun i : Nat =>
        now.instant + i * timedeltaMinutes event.sampleIntervalMinutes
  | 0, _, _, _, h => by
    cases h
    rfl
  | count + 1, tickIndex, now, _, h => by
    obtain ⟨value, -, h⟩ := Except.bind_eq_ok.1 h
    obtain ⟨rest, hrest, h⟩ := Except.bind_eq_ok.1 h
    cases h
    rw [List.map_cons, sampleEvent_timestamps hrest, List.range_succ_eq_map, List.map_cons,
      List.map_map]
    refine List.cons_eq_cons.2 ⟨by simp, List.map_congr_left fun i _ => ?_⟩
    simp only [DateTime.addMinutes, Function.comp_apply, Nat.succ_eq_add_one]
    push_cast
    ring

variable {start : DateTime}

/-- The readings of an event: one for each tick, with the curve's value at that tick. -/
structure Sampled (event : SensorEvent R) (curveFn : CurveFunction R) (ticks : Nat → Prop)
    (readings : List (GeneratedReading R Uuid)) : Prop where
  reading : ∀ r ∈ readings, r.zoneKey = event.zoneKey ∧ r.gasType = event.gasType ∧
    ∃ i, ticks i ∧ curveFn (i * event.sampleIntervalMinutes) event.params = .ok r.value
  tick : ∀ i, ticks i → ∃ r ∈ readings,
    curveFn (i * event.sampleIntervalMinutes) event.params = .ok r.value

theorem sampleEvent_sampled : ∀ {count tickIndex : Nat} {now : DateTime}
    {readings : List (GeneratedReading R Uuid)},
    sampleEvent T seed event curveFn count tickIndex now = .ok readings →
      Sampled event curveFn (fun i => tickIndex ≤ i ∧ i < tickIndex + count) readings
  | 0, tickIndex, _, readings, h => by
    cases h
    exact ⟨nofun, fun i hi => by omega⟩
  | count + 1, tickIndex, now, readings, h => by
    obtain ⟨value, hvalue, h⟩ := Except.bind_eq_ok.1 h
    obtain ⟨rest, hrest, h⟩ := Except.bind_eq_ok.1 h
    cases h
    have ih := sampleEvent_sampled hrest
    refine ⟨List.forall_mem_cons.2 ⟨⟨rfl, rfl, tickIndex, by omega, hvalue⟩, fun r hr => ?_⟩,
      fun i hi => ?_⟩
    · obtain ⟨hzone, hgas, i, hi, hr⟩ := ih.reading r hr
      exact ⟨hzone, hgas, i, by omega, hr⟩
    · rcases Nat.eq_or_lt_of_le hi.1 with rfl | hlt
      · exact ⟨_, List.mem_cons_self, hvalue⟩
      · obtain ⟨r, hr, hvalue⟩ := ih.tick i (by omega)
        exact ⟨r, List.mem_cons_of_mem _ hr, hvalue⟩

theorem generateEventReadings_total (hvalid : event.Valid) :
    ∃ readings, generateEventReadings M T seed start event = .ok readings := by
  obtain ⟨required, hrequired, hparams⟩ := hvalid.params
  obtain ⟨curveFn, hlookup, hcurve⟩ := curve_total (M := M) hrequired hparams
  have hdiv : div event.durationMinutes event.sampleIntervalMinutes =
      .ok (event.durationMinutes / event.sampleIntervalMinutes) :=
    div_eq_ok.2 ⟨hvalid.sampleIntervalMinutes.ne', rfl⟩
  rw [generateEventReadings, hlookup, hdiv]
  exact sampleEvent_total hcurve _ _ _

theorem generateEventReadings_timestamps {readings : List (GeneratedReading R Uuid)}
    (h : generateEventReadings M T seed start event = .ok readings) :
    readings.map (·.timestamp.instant) = (List.range (numSteps event + 1).toNat).map
      fun i : Nat => start.instant + timedeltaMinutes event.simTime +
        i * timedeltaMinutes event.sampleIntervalMinutes := by
  unfold generateEventReadings at h
  split at h
  · obtain ⟨_, -, h⟩ := Except.bind_eq_ok.1 h
    obtain ⟨steps, hsteps, h⟩ := Except.bind_eq_ok.1 h
    obtain ⟨-, rfl⟩ := div_eq_ok.1 hsteps
    exact sampleEvent_timestamps h
  · cases h

theorem generateEventReadings_sampled {readings : List (GeneratedReading R Uuid)}
    (h : generateEventReadings M T seed start event = .ok readings) :
    ∃ curveFn, (curveRegistry M).lookup event.curve = some curveFn ∧
      Sampled event curveFn (fun i => i < (numSteps event + 1).toNat) readings := by
  unfold generateEventReadings at h
  cases hcurve : (curveRegistry M).lookup event.curve with
  | none =>
    rw [hcurve] at h
    cases h
  | some curveFn =>
    rw [hcurve] at h
    obtain ⟨_, hfn, h⟩ := Except.bind_eq_ok.1 h
    cases hfn
    obtain ⟨steps, hsteps, h⟩ := Except.bind_eq_ok.1 h
    obtain ⟨-, rfl⟩ := div_eq_ok.1 hsteps
    have hs := sampleEvent_sampled h
    simp only [Nat.zero_le, true_and, Nat.zero_add] at hs
    exact ⟨curveFn, rfl, hs⟩

/-- The readings of a scenario are its events' readings. -/
theorem mem_generateSensorReadings {scenario : Scenario R}
    {readings : List (GeneratedReading R Uuid)} (hstart : T.datetime scenario.startTime = .ok start)
    (h : generateSensorReadings M T scenario = .ok readings) {r : GeneratedReading R Uuid} :
    r ∈ readings ↔ ∃ event ∈ scenario.sensorEvents, ∃ part,
      generateEventReadings M T scenario.seed start event = .ok part ∧ r ∈ part := by
  obtain ⟨_, hstart', h⟩ := Except.bind_eq_ok.1 h
  cases hstart.symm.trans hstart'
  obtain ⟨parts, hparts, h⟩ := Except.bind_eq_ok.1 h
  cases h
  simp only [List.mem_flatten, Except.mem_mapM_iff hparts, List.mem_insertionSort]
  constructor
  · rintro ⟨part, ⟨event, hevent, hpart⟩, hr⟩
    exact ⟨event, hevent, part, hpart, hr⟩
  · rintro ⟨event, hevent, part, hpart, hr⟩
    exact ⟨part, ⟨event, hevent, hpart⟩, hr⟩

theorem generateSensorReadings_total {scenario : Scenario R} (hvalid : scenario.Valid)
    (hstart : T.datetime scenario.startTime = .ok start) :
    ∃ readings, generateSensorReadings M T scenario = .ok readings := by
  refine Except.bind_total ⟨start, hstart⟩ fun _ _ => Except.bind_total ?_ fun _ _ => ⟨_, rfl⟩
  refine Except.mapM_total fun event he => ?_
  exact generateEventReadings_total (hvalid.sensorEvent event ((List.mem_insertionSort _).1 he))

/-! ## Permits -/

/-- The permit of an event. -/
def PermitEvent.permit (T : Text R Uuid) (seed : Int) (start : DateTime) (event : PermitEvent R) :
    GeneratedPermit Uuid where
  permitId := T.resolveId s!"permit:{seed}:{event.name}"
  zoneKey := event.zoneKey
  permitType := event.permitType
  authorizingOfficerKey := event.authorizingOfficerKey
  issuedAt := start.addMinutes event.simTime
  expiresAt := (start.addMinutes event.simTime).addMinutes event.durationMinutes

/-- The event's permit is issued and expires between the years 1 and 9999. -/
def PermitEvent.Dated (start : DateTime) (event : PermitEvent R) : Prop :=
  (start.addMinutes event.simTime).InRange ∧
    ((start.addMinutes event.simTime).addMinutes event.durationMinutes).InRange

instance (event : PermitEvent R) : Decidable (event.Dated start) :=
  inferInstanceAs (Decidable (_ ∧ _))

/-- The permits of a scenario that starts at `start`. -/
def Scenario.permits (T : Text R Uuid) (scenario : Scenario R) (start : DateTime) :
    List (GeneratedPermit Uuid) :=
  scenario.permitEvents.map (PermitEvent.permit T scenario.seed start)

theorem generatePermit_eq_ok {event : PermitEvent R} {permit : GeneratedPermit Uuid} :
    generatePermit T seed start event = .ok permit ↔
      event.Dated start ∧ event.permit T seed start = permit := by
  simp only [generatePermit, PermitEvent.Dated, Except.bind_eq_ok, DateTime.checked_eq_ok]
  constructor
  · rintro ⟨_, ⟨hissued, rfl⟩, _, ⟨hexpires, rfl⟩, h⟩
    exact ⟨⟨hissued, hexpires⟩, Except.ok.inj h⟩
  · rintro ⟨⟨hissued, hexpires⟩, rfl⟩
    exact ⟨_, ⟨hissued, rfl⟩, _, ⟨hexpires, rfl⟩, rfl⟩

/-- The permits are generated unless a time overflows. -/
theorem generatePermits_eq_ok {scenario : Scenario R} {permits : List (GeneratedPermit Uuid)} :
    generatePermits T scenario = .ok permits ↔ ∃ start, T.datetime scenario.startTime = .ok start ∧
      (∀ event ∈ scenario.permitEvents, event.Dated start) ∧ scenario.permits T start = permits := by
  rw [generatePermits, Except.bind_eq_ok]
  unfold Scenario.permits
  refine exists_congr fun start => and_congr_right fun _ => ?_
  rw [Except.mapM_eq_ok, ← List.forall₂_eq_eq_eq, List.forall₂_map_left_iff]
  simp only [generatePermit_eq_ok]
  exact List.forall₂_and_left _ _

end

end Simulation
