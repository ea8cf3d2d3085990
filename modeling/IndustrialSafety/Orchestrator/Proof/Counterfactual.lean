import IndustrialSafety.Lib.Result
import IndustrialSafety.Orchestrator.Counterfactual

/-!
# The comparator's verdict

`evaluate` returns iff every reading passes `_validate_reading` (`evaluate_eq_ok`), and a verdict on at
most one reading determines that reading's ratio (`verdict_inj`).
-/

namespace Counterfactual

open Py

variable {R Uuid : Type} [Field R] [LinearOrder R] {T : Text R Uuid} {zoneId : Uuid}
  {simTime : Instant}

/-- A reading that `_validate_reading` accepts. -/
def CounterfactualReading.Valid (reading : CounterfactualReading R) : Prop :=
  0 < reading.alarmThreshold ∧ 0 ≤ reading.value

theorem validateReading_ok {reading : CounterfactualReading R} :
    validateReading T reading = .ok () ↔ reading.Valid := by
  unfold validateReading CounterfactualReading.Valid
  by_cases h1 : reading.alarmThreshold ≤ 0
  · simp [h1, not_lt.2 h1]
  · by_cases h2 : reading.value < 0
    · simp [h1, h2, not_le.2 h2]
    · simp [h1, h2, not_le.1 h1, not_lt.1 h2]

/-- What `evaluate` returns on valid readings. -/
def verdict (zoneId : Uuid) (simTime : Instant) (readings : List (CounterfactualReading R)) :
    CounterfactualResult R Uuid :=
  let triggeredSensors := (readings.filter calculateSensorAlert).map CounterfactualReading.sensorId
  { zoneId, simTime, alert := !triggeredSensors.isEmpty, triggeredSensors,
    highestRatio := calculateHighestRatio readings }

theorem evaluate_eq_ok {readings : List (CounterfactualReading R)}
    {result : CounterfactualResult R Uuid} :
    evaluate T zoneId simTime readings = .ok result ↔
      (∀ r ∈ readings, r.Valid) ∧ result = verdict zoneId simTime readings := by
  unfold evaluate
  rw [Except.bind_eq_ok]
  constructor
  · intro ⟨_, hall, h⟩
    cases h
    exact ⟨fun r hr => validateReading_ok.1 (Except.forM_eq_ok.1 hall r hr), rfl⟩
  · intro ⟨hall, hresult⟩
    refine ⟨(), Except.forM_eq_ok.2 fun r hr => validateReading_ok.2 (hall r hr), ?_⟩
    rw [hresult]
    rfl

/-- The verdicts on a sensor's reading agree iff the readings have the same value, or both are absent. -/
theorem verdict_inj {sensorId : String} {threshold : R} (ht : 0 < threshold) {value value' : Option R} :
    verdict zoneId simTime (value.map (⟨sensorId, ·, threshold⟩)).toList =
        verdict zoneId simTime (value'.map (⟨sensorId, ·, threshold⟩)).toList ↔ value = value' := by
  refine ⟨fun h => ?_, fun h => by rw [h]⟩
  have hratio : ∀ v : Option R, (verdict zoneId simTime
      (v.map (⟨sensorId, ·, threshold⟩)).toList).highestRatio = v.map (· / threshold) := by
    intro v
    cases v <;> simp [verdict, calculateHighestRatio]
  have hmap := congrArg CounterfactualResult.highestRatio h
  rw [hratio, hratio] at hmap
  refine Option.map_injective ?_ hmap
  intro x y hxy
  exact (div_left_inj' ht.ne').1 hxy

end Counterfactual
