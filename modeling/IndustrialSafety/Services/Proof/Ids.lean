import IndustrialSafety.Services.Proof.Baseline
import IndustrialSafety.Services.Proof.Persist
import IndustrialSafety.Simulation.Proof.Ids

/-!
# One row for each generated record

Readings and permits are merged on their ids, so two records with one id would leave one row. The ids of
a scenario that passes the validation are distinct (`generated_nodup`), and the loops that persist it
leave a row for each record (`persistScenario_oneRowEach`).
-/

namespace SimulationRunner

open Py Simulation

variable {R Uuid : Type} [Field R] [LinearOrder R] [DecidableEq Uuid]

/-- The primary key of a reading. -/
def readingRowKey (r : GeneratedReading R Uuid) : Uuid × Instant := (r.readingId, r.timestamp.instant)

/-- Each record has a row of its own, and the other rows are as they were. -/
structure OneRowEach (readings : List (GeneratedReading R Uuid)) (permits : List (GeneratedPermit Uuid))
    (db db' : Db R Uuid) : Prop where
  reading : ∀ r ∈ readings, ∃ row ∈ db'.sensorReadings, row.readingId = r.readingId ∧
    row.timestamp = r.timestamp.instant ∧ row.gasType = r.gasType ∧ row.value = r.value
  readings_length : (db'.sensorReadings.rows.filter fun row =>
    (row.readingId, row.timestamp) ∈ readings.map readingRowKey).length = readings.length
  other_readings : ∀ row : SensorReading R Uuid,
    (row.readingId, row.timestamp) ∉ readings.map readingRowKey →
      (row ∈ db'.sensorReadings ↔ row ∈ db.sensorReadings)
  permit : ∀ p ∈ permits, ∃ row ∈ db'.permits, row.permitId = p.permitId ∧
    row.permitType = p.permitType ∧ row.issuedAt = p.issuedAt.instant ∧
      row.expiresAt = p.expiresAt.instant
  permits_length : (db'.permits.rows.filter fun row =>
    row.permitId ∈ permits.map GeneratedPermit.permitId).length = permits.length
  other_permits : ∀ row : Permit R Uuid, row.permitId ∉ permits.map GeneratedPermit.permitId →
    (row ∈ db'.permits ↔ row ∈ db.permits)

variable {M : Math R} {T : Text R Uuid} {resolve : String → Result Uuid} {scenario : Scenario R}
  {readings : List (GeneratedReading R Uuid)} {permits : List (GeneratedPermit Uuid)}
  {db db' : Db R Uuid}

omit [Field R] [LinearOrder R] in
theorem map_key_placed {ps : List (PlacedReading R Uuid)}
    (h : readings.mapM (placeReading resolve db) = .ok ps) :
    ps.map PlacedReading.key = readings.map readingRowKey :=
  Except.map_eq_of_mapM h fun r p hp => by
    rw [PlacedReading.key, placeReading_reading hp]
    rfl

variable [FloorRing R] {ps : List (PlacedReading R Uuid)} {args : List (PermitRepository.Args R Uuid)}

/-- The rows that a valid scenario writes have distinct keys. -/
theorem Persists.keys_nodup (h : Persists M T resolve scenario db readings ps args)
    (hnodup : ∀ permits, generatePermits T scenario = .ok permits →
      (generatedIds readings permits).Nodup) :
    (ps.map PlacedReading.key).Nodup ∧ (args.map PermitRepository.Args.permitId).Nodup := by
  obtain ⟨permits, hpermits, hargs⟩ := h.permits
  obtain ⟨hreadingIds, hpermitIds, -⟩ := List.nodup_append.1 (hnodup permits hpermits)
  refine ⟨?_, ?_⟩
  · rw [map_key_placed h.placed]
    refine List.Nodup.of_map Prod.fst ?_
    rwa [List.map_map]
  · rwa [Except.map_eq_of_mapM hargs fun _ _ ha => (permitArgs_permit ha).1]

/-- The two loops, where the ids are distinct. -/
theorem persistScenario_oneRowEach (hnodup : (generatedIds readings permits).Nodup)
    (hpermits : generatePermits T scenario = .ok permits)
    (h : persistScenario M T resolve scenario db = .ok (readings, db')) :
    OneRowEach readings permits db db' := by
  obtain ⟨ps, args, hpersists, rfl⟩ := persistScenario_eq_ok.1 h
  obtain ⟨permits', hpermits', hargs⟩ := hpersists.permits
  cases hpermits.symm.trans hpermits'
  obtain ⟨hkeysNodup, hidsNodup⟩ := hpersists.keys_nodup fun _ h => by
    cases hpermits.symm.trans h
    exact hnodup
  have hkeys := map_key_placed hpersists.placed
  have hids : args.map PermitRepository.Args.permitId = permits.map GeneratedPermit.permitId :=
    Except.map_eq_of_mapM hargs fun _ _ ha => (permitArgs_permit ha).1
  obtain ⟨hrows, hlength, hother⟩ := merging_reading.foldl_nodup hkeysNodup db.sensorReadings
    (p := fun row => (row.readingId, row.timestamp) ∈ readings.map readingRowKey) fun row => by
      rw [hkeys, decide_eq_true_iff]
  obtain ⟨hpermitRows, hpermitLength, hpermitOther⟩ :=
    merging_permit.foldl_nodup hidsNodup db.permits
      (p := fun row => row.permitId ∈ permits.map GeneratedPermit.permitId) fun row => by
        rw [hids, decide_eq_true_iff]
  have hplaced := Except.mapM_eq_ok.1 hpersists.placed
  have hissued := Except.mapM_eq_ok.1 hargs
  rw [hkeys] at hother
  rw [hids] at hpermitOther
  refine ⟨fun r hr => ?_, ?_, hother, fun p hp => ?_, ?_, hpermitOther⟩
  · obtain ⟨p, hp, hok⟩ := hplaced.exists_of_mem_left hr
    refine ⟨_, hrows p hp, ?_⟩
    rw [← placeReading_reading hok]
    exact ⟨rfl, rfl, rfl, rfl⟩
  · exact hlength.trans hplaced.length_eq.symm
  · obtain ⟨a, ha, hok⟩ := hissued.exists_of_mem_left hp
    exact ⟨_, hpermitRows a ha, permitArgs_permit hok⟩
  · exact hpermitLength.trans hissued.length_eq.symm

/-- **Ids never collide**: the records of a valid scenario have distinct ids, the runner and the builder
leave one row for each of them, and a scenario with another seed has none of these ids. -/
theorem ids_never_collide (hT : Function.Injective T.resolveId)
    (hvalid : validateStructure M scenario = .ok ())
    (hreadings : generateSensorReadings M T scenario = .ok readings)
    (hpermits : generatePermits T scenario = .ok permits) :
    (generatedIds readings permits).Nodup ∧
    (∀ db db' : Db R Uuid, runScenario M T scenario db = (.ok (), db') →
      OneRowEach readings permits db db') ∧
    (∀ (db db' : Db R Uuid) (rs : List (GeneratedReading R Uuid)),
      ScenarioBuilder.persistBuilderScenario M T scenario db = .ok (([], rs), db') →
        OneRowEach readings permits db db') ∧
    ∀ (scenario' : Scenario R) (readings' : List (GeneratedReading R Uuid))
      (permits' : List (GeneratedPermit Uuid)), scenario.seed ≠ scenario'.seed →
        generateSensorReadings M T scenario' = .ok readings' →
          generatePermits T scenario' = .ok permits' →
            (generatedIds readings permits).Disjoint (generatedIds readings' permits') := by
  have hnodup := generated_nodup hT hvalid hreadings hpermits
  have hloops : ∀ {resolve : String → Result Uuid} {db db' : Db R Uuid}
      {rs : List (GeneratedReading R Uuid)},
      persistScenario M T resolve scenario db = .ok (rs, db') → OneRowEach readings permits db db' := by
    intro resolve db db' rs h
    obtain ⟨ps, args, hpersists, -⟩ := persistScenario_eq_ok.1 h
    cases hreadings.symm.trans hpersists.generated
    exact persistScenario_oneRowEach hnodup hpermits h
  refine ⟨hnodup, fun db db' h => ?_, fun db db' rs h => ?_, ?_⟩
  · obtain ⟨_, _, hcheck, hbody⟩ := Service.bind_eq_ok.1 h
    obtain ⟨-, rfl⟩ := Service.lift_eq_ok.1 hcheck
    rw [Service.transaction_eq_ok, Transaction.get_bind] at hbody
    obtain ⟨_, -, hbody⟩ := Transaction.lift_bind_eq_ok.1 hbody
    obtain ⟨_, _, hpersist, hpure⟩ := Transaction.bind_eq_ok.1 hbody
    cases hpure
    exact hloops hpersist
  · rcases ScenarioBuilder.persistBuilderScenario_eq_ok.1 h with ⟨-, hne, -⟩ | ⟨-, -, hpersist⟩
    · exact absurd rfl hne
    · exact hloops hpersist
  · exact fun scenario' readings' permits' hseed hreadings' hpermits' =>
      generated_disjoint hT hseed hreadings hpermits hreadings' hpermits'

/-- The three records of a scenario. -/
theorem ids_never_collide_hotWork : ∃ (readings : List (GeneratedReading ℚ ℕ))
    (permits : List (GeneratedPermit ℕ)), (generatedIds readings permits).length = 3 ∧
      (generatedIds readings permits).Nodup ∧
        ∀ db db' : Db ℚ ℕ, runScenario Math.dyadic plainText (Runtime.hotWork 5) db = (.ok (), db') →
          OneRowEach readings permits db db' := by
  have hvalid : (validateStructure Math.dyadic (Runtime.hotWork 5)).toOption = some () := by
    decide +kernel
  have hreadings : (generateSensorReadings Math.dyadic plainText
      (Runtime.hotWork 5)).toOption.map List.length = some 2 := by decide +kernel
  have hpermits : (generatePermits plainText (Runtime.hotWork 5)).toOption.map List.length =
    some 1 := by decide +kernel
  obtain ⟨readings, hreadings, htwo⟩ := Except.toOption_map_eq_some.1 hreadings
  obtain ⟨permits, hpermits, hone⟩ := Except.toOption_map_eq_some.1 hpermits
  obtain ⟨hnodup, hrun, -⟩ := ids_never_collide (plain_resolveId_injective _)
    (Except.toOption_eq_some.1 hvalid) hreadings hpermits
  refine ⟨readings, permits, ?_, hnodup, hrun⟩
  rw [generatedIds, List.length_append, List.length_map, List.length_map, htwo, hone]

end SimulationRunner
