import IndustrialSafety.Services.Proof.Builder
import IndustrialSafety.Services.ScenarioCatalog
import IndustrialSafety.Simulation.Proof.Generator

/-!
# The window of a catalogued scenario

The generator adds up rounded intervals, the catalog rounds one sum. Over the instants
`a, a + d, …, a + n * d` of an event (`bounded_iff`, `increasing_iff`), `generated_inWindow_iff`: the
readings lie in the window and follow each other iff no event's interval rounds to nothing and none
rounds past the end of the window.
-/

namespace ScenarioCatalog

open Py Simulation

/-! ## Equidistant instants -/

/-- `a, a + d, …, a + n * d`. -/
def instants (a d n : Int) : List Int := (List.range (n + 1).toNat).map fun i : Nat => a + i * d

theorem mem_instants {a d n t : Int} : t ∈ instants a d n ↔
    ∃ i : Nat, (i : Int) ≤ n ∧ a + i * d = t := by
  simp only [instants, List.mem_map, List.mem_range]
  refine exists_congr fun i => and_congr_left fun _ => ?_
  omega

theorem bounded_iff {a d n s e : Int} (hn : 0 ≤ n) (hd : 0 ≤ d) (hs : s ≤ a) :
    (∀ t ∈ instants a d n, s ≤ t ∧ t ≤ e) ↔ a + n * d ≤ e := by
  refine ⟨fun h => ?_, fun h t ht => ?_⟩
  · exact (h _ (mem_instants.2 ⟨n.toNat, by omega, by rw [Int.toNat_of_nonneg hn]⟩)).2
  · obtain ⟨i, hi, rfl⟩ := mem_instants.1 ht
    have hle : (i : Int) * d ≤ n * d := mul_le_mul_of_nonneg_right hi hd
    have hpos : 0 ≤ (i : Int) * d := mul_nonneg (by omega) hd
    omega

theorem increasing_iff {a d n : Int} (hn : 0 ≤ n) (hd : 0 ≤ d) :
    (instants a d n).Pairwise (· < ·) ↔ n = 0 ∨ 0 < d := by
  unfold instants
  rw [List.pairwise_map]
  refine ⟨fun h => ?_, fun h => ?_⟩
  · by_cases h0 : n = 0
    · exact .inl h0
    · have hlength : 1 < (List.range (n + 1).toNat).length := by
        rw [List.length_range]
        omega
      have hstep := List.pairwise_iff_getElem.1 h 0 1 (by omega) hlength (by omega)
      simp only [List.getElem_range] at hstep
      omega
  · rcases h with rfl | h
    · exact List.pairwise_singleton _ _
    · refine List.pairwise_lt_range.imp fun {i j} hij => ?_
      have hmul : (i : Int) * d < j * d := mul_lt_mul_of_pos_right (by omega) h
      omega

/-! ## The readings of a scenario -/

variable {R Uuid : Type} [Field R] [LinearOrder R] [IsStrictOrderedRing R] [FloorRing R]

/-- Every reading lies in the catalogued window, and an event's readings follow each other. -/
structure InWindow (M : Math R) (T : Text R Uuid) (scenario : Scenario R) (start : DateTime)
    (readings : List (GeneratedReading R Uuid)) : Prop where
  window : ∀ r ∈ readings, start.instant ≤ r.timestamp.instant ∧
    r.timestamp.instant ≤ (endTime scenario start).instant
  increasing : ∀ event ∈ scenario.sensorEvents, ∀ part,
    generateEventReadings M T scenario.seed start event = .ok part →
      part.Pairwise fun a b => a.timestamp.instant < b.timestamp.instant

/-- The latest end of a sensor event, in minutes. -/
def latestOffset (scenario : Scenario R) : R :=
  (scenario.sensorEvents.map fun e => e.simTime + e.durationMinutes).max?.getD 0

omit [IsStrictOrderedRing R] in
theorem endTime_instant {scenario : Scenario R} (h : scenario.sensorEvents ≠ [])
    (start : DateTime) : (endTime scenario start).instant =
      start.instant + timedeltaMinutes (latestOffset scenario) := by
  simp [endTime, latestOffset, DateTime.addMinutes, h]

variable {M : Math R} {T : Text R Uuid} {scenario : Scenario R} {start : DateTime}

theorem numSteps_nonneg {event : SensorEvent R} (h : event.Valid) : 0 ≤ numSteps event :=
  Int.floor_nonneg.2 (div_pos h.durationMinutes h.sampleIntervalMinutes).le

/-- The window and the order of one event's readings. -/
theorem eventReadings_iff {event : SensorEvent R} {seed : Int} {e : Instant} (hvalid : event.Valid)
    {part : List (GeneratedReading R Uuid)}
    (h : generateEventReadings M T seed start event = .ok part) :
    ((∀ r ∈ part, start.instant ≤ r.timestamp.instant ∧ r.timestamp.instant ≤ e) ↔
      start.instant + timedeltaMinutes event.simTime +
        numSteps event * timedeltaMinutes event.sampleIntervalMinutes ≤ e) ∧
    ((part.Pairwise fun a b => a.timestamp.instant < b.timestamp.instant) ↔
      numSteps event = 0 ∨ 0 < timedeltaMinutes event.sampleIntervalMinutes) := by
  have hn := numSteps_nonneg hvalid
  have hd := timedeltaMinutes_nonneg hvalid.sampleIntervalMinutes.le
  have hs := timedeltaMinutes_nonneg hvalid.simTime
  have htimes : part.map (·.timestamp.instant) = instants
      (start.instant + timedeltaMinutes event.simTime)
      (timedeltaMinutes event.sampleIntervalMinutes) (numSteps event) :=
    generateEventReadings_timestamps h
  refine ⟨?_, ?_⟩
  · rw [← bounded_iff hn hd (le_add_of_nonneg_right hs), ← htimes]
    simp only [List.forall_mem_map]
  · rw [← increasing_iff hn hd, ← htimes, List.pairwise_map]

/-- **The readings of an accepted scenario lie in its catalogued window**, each event's one after the
other, iff no event of several readings has an interval that rounds to nothing and the rounded
intervals of none add up past the rounded end. -/
theorem generated_inWindow_iff (M : Math R) (T : Text R Uuid) {scenario : Scenario R}
    {start : DateTime} (hvalid : validateStructure M scenario = .ok ())
    (hstart : T.datetime scenario.startTime = .ok start) :
    ∃ readings, generateSensorReadings M T scenario = .ok readings ∧
      (InWindow M T scenario start readings ↔ ∀ event ∈ scenario.sensorEvents,
        timedeltaMinutes event.simTime +
            numSteps event * timedeltaMinutes event.sampleIntervalMinutes ≤
          timedeltaMinutes (latestOffset scenario) ∧
        (numSteps event = 0 ∨ 0 < timedeltaMinutes event.sampleIntervalMinutes)) := by
  have hevents := (validateStructure_valid hvalid).sensorEvent
  obtain ⟨readings, hreadings⟩ :=
    generateSensorReadings_total (M := M) (validateStructure_valid hvalid) hstart
  have hmem {r} := mem_generateSensorReadings hstart hreadings (r := r)
  refine ⟨readings, hreadings, fun h event he => ?_, fun h => ⟨fun r hr => ?_, ?_⟩⟩
  · obtain ⟨part, hpart⟩ : ∃ part,
        generateEventReadings M T scenario.seed start event = .ok part :=
      generateEventReadings_total (hevents event he)
    have hiff := eventReadings_iff (e := (endTime scenario start).instant) (hevents event he) hpart
    have hend := hiff.1.1 fun r hr => h.window r (hmem.2 ⟨event, he, part, hpart, hr⟩)
    rw [endTime_instant (List.ne_nil_of_mem he)] at hend
    exact ⟨by linarith, hiff.2.1 (h.increasing event he part hpart)⟩
  · obtain ⟨event, he, part, hpart, hr⟩ := hmem.1 hr
    refine (eventReadings_iff (hevents event he) hpart).1.2 ?_ r hr
    rw [endTime_instant (List.ne_nil_of_mem he)]
    have := (h event he).1
    linarith
  · intro event he part hpart
    exact (eventReadings_iff (e := 0) (hevents event he) hpart).2.2 (h event he).2

/-- A reading every minute, for a minute. -/
theorem generated_inWindow_minute : ∃ readings,
    generateSensorReadings Math.dyadic plainText (ScenarioBuilder.twoEvents 2) = .ok readings ∧
      InWindow Math.dyadic plainText (ScenarioBuilder.twoEvents 2) ⟨0, 0⟩ readings := by
  have hvalid : validateStructure Math.dyadic (ScenarioBuilder.twoEvents 2) = .ok () := by
    decide +kernel
  have hstart : plainText.datetime (ScenarioBuilder.twoEvents 2).startTime = .ok ⟨0, 0⟩ := by
    decide +kernel
  obtain ⟨readings, hreadings, hiff⟩ :=
    generated_inWindow_iff Math.dyadic plainText hvalid hstart
  exact ⟨readings, hreadings, hiff.2 (by decide +kernel)⟩

/-- Seven readings a minute, for a minute. -/
def sevenths : Scenario ℚ where
  seed := 1
  startTime := "0+0"
  sensorEvents := [{ ScenarioBuilder.gasEvent "leak" 0 with sampleIntervalMinutes := 1 / 7 }]

/-- A seventh of a minute rounds up: the last reading is 3 microseconds after the end. -/
theorem sevenths_outlast_window : validateStructure Math.dyadic sevenths = .ok () ∧
    ∃ readings, generateSensorReadings Math.dyadic plainText sevenths = .ok readings ∧
      ¬InWindow Math.dyadic plainText sevenths ⟨0, 0⟩ readings := by
  have hlast : (generateSensorReadings Math.dyadic plainText sevenths).toOption.map
      (fun readings => decide (∀ r ∈ readings,
        r.timestamp.instant ≤ (endTime sevenths ⟨0, 0⟩).instant)) = some false := by
    decide +kernel
  obtain ⟨readings, hreadings, hlate⟩ := Except.toOption_map_eq_some.1 hlast
  refine ⟨by decide +kernel, readings, hreadings, fun h => ?_⟩
  exact of_decide_eq_false hlate fun r hr => (h.window r hr).2

end ScenarioCatalog
