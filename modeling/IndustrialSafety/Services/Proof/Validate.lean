import IndustrialSafety.Lib.Result
import IndustrialSafety.Services.ScenarioBuilder
import IndustrialSafety.Simulation.Proof.Generator

/-!
# Accepted builder scenarios

`validateBuilderScenario_eq_nil`: the validation returns no error iff the structure is valid, every
reference resolves, and no generated reading is negative.
-/

namespace ScenarioBuilder

open Py Simulation

variable {R Uuid : Type} [Field R] [LinearOrder R] [DecidableEq Uuid] {M : Math R} {T : Text R Uuid}
  {db : Db R Uuid}

omit [Field R] [LinearOrder R] in
theorem sensorEventErrors_eq_nil {event : SensorEvent R} : sensorEventErrors T db event = [] ↔
    ∃ zoneId, T.uuidOfStr event.zoneKey = some zoneId ∧ (ZoneRepository.get db zoneId).isSome ∧
      (SensorRepository.getByZoneAndGas db zoneId event.gasType).isSome := by
  unfold sensorEventErrors
  cases T.uuidOfStr event.zoneKey with
  | none => simp
  | some zoneId =>
    cases hz : ZoneRepository.get db zoneId <;>
      cases hs : SensorRepository.getByZoneAndGas db zoneId event.gasType <;> simp [hz, hs]

omit [Field R] [LinearOrder R] in
theorem permitZoneErrors_eq_nil {event : PermitEvent R} : permitZoneErrors T db event = [] ↔
    ∃ zoneId, T.uuidOfStr event.zoneKey = some zoneId ∧ (ZoneRepository.get db zoneId).isSome := by
  unfold permitZoneErrors
  cases T.uuidOfStr event.zoneKey with
  | none => simp
  | some zoneId => cases hz : ZoneRepository.get db zoneId <;> simp [hz]

omit [Field R] [LinearOrder R] in
theorem permitOfficerErrors_eq_nil {event : PermitEvent R} : permitOfficerErrors T db event = [] ↔
    ∃ officerId officer, T.uuidOfStr event.authorizingOfficerKey = some officerId ∧
      WorkerRepository.get db officerId = some officer ∧ officer.currentZoneId.isSome := by
  unfold permitOfficerErrors
  cases T.uuidOfStr event.authorizingOfficerKey with
  | none => simp
  | some officerId =>
    cases ho : WorkerRepository.get db officerId with
    | none => simp [ho]
    | some officer => cases hz : officer.currentZoneId <;> simp [ho, hz]

/-- The references of the events resolve. -/
structure References (T : Text R Uuid) (db : Db R Uuid) (scenario : Scenario R) : Prop where
  sensorEvent : ∀ event ∈ scenario.sensorEvents, sensorEventErrors T db event = []
  permitZone : ∀ event ∈ scenario.permitEvents, permitZoneErrors T db event = []
  permitOfficer : ∀ event ∈ scenario.permitEvents, permitOfficerErrors T db event = []

variable [FloorRing R] {scenario : Scenario R}

theorem validateBuilderScenario_eq_nil : validateBuilderScenario M T db scenario = .ok [] ↔
    validateStructure M scenario = .ok () ∧ References T db scenario ∧
      ∃ readings, generateSensorReadings M T scenario = .ok readings ∧ ∀ r ∈ readings, 0 ≤ r.value := by
  have hreferences : (scenario.sensorEvents.flatMap (sensorEventErrors T db) ++
      scenario.permitEvents.flatMap fun event =>
        permitZoneErrors T db event ++ permitOfficerErrors T db event) = [] ↔
      References T db scenario := by
    rw [List.append_eq_nil_iff, List.flatMap_eq_nil_iff, List.flatMap_eq_nil_iff]
    simp only [List.append_eq_nil_iff]
    exact ⟨fun h => ⟨h.1, fun e he => (h.2 e he).1, fun e he => (h.2 e he).2⟩,
      fun h => ⟨h.1, fun e he => ⟨h.2 e he, h.3 e he⟩⟩⟩
  unfold validateBuilderScenario
  rcases hs : validateStructure M scenario with e | u
  · cases e <;> simp
  · simp only [true_and, ← hreferences]
    split
    · rename_i herrors
      simp [herrors]
    · rename_i herrors
      rw [not_not] at herrors
      rw [herrors]
      rcases hg : generateSensorReadings M T scenario with e | readings
      · simp
      · cases hfind : readings.find? fun reading => reading.value < 0 with
        | none =>
          have := List.find?_eq_none.1 hfind
          simpa [hfind] using this
        | some r =>
          have hneg : r.value < 0 := by simpa using List.find?_some hfind
          have hmem := List.mem_of_find?_eq_some hfind
          have hbad : ¬∀ r ∈ readings, 0 ≤ r.value := fun h => absurd (h r hmem) (not_le.2 hneg)
          simpa [hfind] using hbad

end ScenarioBuilder
