import IndustrialSafety.Py.Instances
import IndustrialSafety.Simulation.Proof.Generator

/-!
# The ids of what the generator produces

A reading is identified by the text `reading:{seed}:{name}:{tick_index}`, a permit by
`permit:{seed}:{name}`. The seed and the index are numerals, so the second `:` of the text ends the seed
and the last one starts the index, whatever the name has in it:

* `readingKey_inj`, `permitKey_inj`: the texts determine their parts.
* `generated_nodup`: distinct names give distinct ids.
* `generated_disjoint`: and so do distinct seeds.
-/

namespace Simulation

open Py

/-! ## Texts -/

/-- The text a reading's id is resolved from. -/
def readingKey (seed : Int) (name : String) (tickIndex : ℕ) : String :=
  s!"reading:{seed}:{name}:{tickIndex}"

/-- The text a permit's id is resolved from. -/
def permitKey (seed : Int) (name : String) : String := s!"permit:{seed}:{name}"

theorem toList_readingKey (seed : Int) (name : String) (tickIndex : ℕ) :
    (readingKey seed name tickIndex).toList = "reading".toList ++ ':' ::
      ((Int.repr seed).toList ++ ':' :: (name.toList ++ ':' :: (Nat.repr tickIndex).toList)) := by
  simp [readingKey, ToString.toString]

theorem toList_permitKey (seed : Int) (name : String) : (permitKey seed name).toList =
    "permit".toList ++ ':' :: ((Int.repr seed).toList ++ ':' :: name.toList) := by
  simp [permitKey, ToString.toString]

theorem readingKey_inj {seed seed' : Int} {name name' : String} {i i' : ℕ}
    (h : readingKey seed name i = readingKey seed' name' i') :
    seed = seed' ∧ name = name' ∧ i = i' := by
  have htext := congrArg String.toList h
  rw [toList_readingKey, toList_readingKey] at htext
  obtain ⟨-, hrest⟩ := split_injective (by decide) (by decide) htext
  -- the seed ends at the first separator, the index starts at the last one
  obtain ⟨hseed, hrest⟩ :=
    split_injective (colon_not_mem_intRepr seed) (colon_not_mem_intRepr seed') hrest
  obtain ⟨hname, hi⟩ :=
    split_injective_right (colon_not_mem_natRepr i) (colon_not_mem_natRepr i') hrest
  exact ⟨intRepr_injective (String.toList_injective hseed), String.toList_injective hname,
    natRepr_injective (String.toList_injective hi)⟩

theorem permitKey_inj {seed seed' : Int} {name name' : String}
    (h : permitKey seed name = permitKey seed' name') : seed = seed' ∧ name = name' := by
  have htext := congrArg String.toList h
  rw [toList_permitKey, toList_permitKey] at htext
  obtain ⟨-, hrest⟩ := split_injective (by decide) (by decide) htext
  obtain ⟨hseed, hname⟩ :=
    split_injective (colon_not_mem_intRepr seed) (colon_not_mem_intRepr seed') hrest
  exact ⟨intRepr_injective (String.toList_injective hseed), String.toList_injective hname⟩

theorem readingKey_ne_permitKey (seed seed' : Int) (name name' : String) (i : ℕ) :
    readingKey seed name i ≠ permitKey seed' name' := by
  intro h
  have htext := congrArg String.toList h
  rw [toList_readingKey, toList_permitKey] at htext
  exact absurd (split_injective (by decide) (by decide) htext).1 (by decide)

/-! ## Ids -/

variable {R Uuid : Type} [Field R] [LinearOrder R] [FloorRing R] {M : Math R} {T : Text R Uuid}
  {scenario : Scenario R} {readings : List (GeneratedReading R Uuid)}
  {permits : List (GeneratedPermit Uuid)}

/-- The ids of everything a scenario generates. -/
def generatedIds (readings : List (GeneratedReading R Uuid)) (permits : List (GeneratedPermit Uuid)) :
    List Uuid :=
  readings.map GeneratedReading.readingId ++ permits.map GeneratedPermit.permitId

theorem sampleEvent_ids {seed : Int} {event : SensorEvent R} {curveFn : CurveFunction R} :
    ∀ {count tickIndex : ℕ} {now : DateTime} {readings : List (GeneratedReading R Uuid)},
      sampleEvent T seed event curveFn count tickIndex now = .ok readings →
        readings.map GeneratedReading.readingId = (List.range' tickIndex count).map fun i =>
          T.resolveId (readingKey seed event.name i)
  | 0, _, _, _, h => by
    cases h
    rfl
  | count + 1, tickIndex, _, _, h => by
    obtain ⟨value, -, h⟩ := Except.bind_eq_ok.1 h
    obtain ⟨rest, hrest, h⟩ := Except.bind_eq_ok.1 h
    cases h
    rw [List.map_cons, sampleEvent_ids hrest, List.range'_succ, List.map_cons]
    rfl

/-- The readings of an event are numbered from 0. -/
theorem generateEventReadings_ids {seed : Int} {start : DateTime} {event : SensorEvent R}
    (h : generateEventReadings M T seed start event = .ok readings) :
    ∃ count, readings.map GeneratedReading.readingId =
      (List.range' 0 count).map fun i => T.resolveId (readingKey seed event.name i) := by
  unfold generateEventReadings at h
  split at h
  · obtain ⟨_, -, h⟩ := Except.bind_eq_ok.1 h
    obtain ⟨steps, -, h⟩ := Except.bind_eq_ok.1 h
    exact ⟨(⌊steps⌋ + 1).toNat, sampleEvent_ids h⟩
  · cases h

/-- The events in the order of the readings, each with its number of readings. -/
theorem generateSensorReadings_ids (h : generateSensorReadings M T scenario = .ok readings) :
    ∃ counts : List (String × ℕ), (counts.map Prod.fst).Perm (scenario.sensorEvents.map
        SensorEvent.name) ∧
      readings.map GeneratedReading.readingId = (counts.flatMap fun c =>
        (List.range' 0 c.2).map fun i => readingKey scenario.seed c.1 i).map T.resolveId := by
  obtain ⟨start, -, h⟩ := Except.bind_eq_ok.1 h
  obtain ⟨parts, hparts, h⟩ := Except.bind_eq_ok.1 h
  cases h
  suffices hevents : ∀ events : List (SensorEvent R), ∀ parts : List (List (GeneratedReading R Uuid)),
      List.Forall₂ (fun event part =>
        generateEventReadings M T scenario.seed start event = .ok part) events parts →
      ∃ counts : List (String × ℕ), counts.map Prod.fst = events.map SensorEvent.name ∧
        parts.flatten.map GeneratedReading.readingId = (counts.flatMap fun c =>
          (List.range' 0 c.2).map fun i => readingKey scenario.seed c.1 i).map T.resolveId by
    obtain ⟨counts, hnames, hids⟩ := hevents _ _ (Except.mapM_eq_ok.1 hparts)
    refine ⟨counts, ?_, hids⟩
    rw [hnames]
    exact (List.perm_insertionSort _ _).map _
  intro events parts hall
  induction hall with
  | nil => exact ⟨[], rfl, rfl⟩
  | cons hpart _ ih =>
    obtain ⟨count, hcount⟩ := generateEventReadings_ids hpart
    obtain ⟨counts, hnames, hids⟩ := ih
    refine ⟨(_, count) :: counts, congrArg _ hnames, ?_⟩
    rw [List.flatten_cons, List.map_append, hcount, hids, List.flatMap_cons, List.map_append,
      List.map_map]
    rfl

theorem generatePermits_ids (h : generatePermits T scenario = .ok permits) :
    permits.map GeneratedPermit.permitId =
      (scenario.permitEvents.map fun e => permitKey scenario.seed e.name).map T.resolveId := by
  obtain ⟨start, -, -, rfl⟩ := generatePermits_eq_ok.1 h
  rw [Scenario.permits, List.map_map, List.map_map]
  rfl

/-- **Ids never collide**: the readings and permits of a scenario with distinct names have distinct ids. -/
theorem generated_nodup (hT : Function.Injective T.resolveId)
    (hvalid : validateStructure M scenario = .ok ())
    (hreadings : generateSensorReadings M T scenario = .ok readings)
    (hpermits : generatePermits T scenario = .ok permits) : (generatedIds readings permits).Nodup := by
  obtain ⟨hnames, -⟩ := validateStructure_eq_ok.1 hvalid
  obtain ⟨hsensor, hpermit, -⟩ := List.nodup_append.1 hnames
  obtain ⟨counts, hperm, hids⟩ := generateSensorReadings_ids hreadings
  unfold generatedIds
  rw [hids, generatePermits_ids hpermits, ← List.map_append]
  refine List.Nodup.map hT (List.nodup_append.2 ⟨?_, ?_, ?_⟩)
  · refine List.nodup_flatMap.2 ⟨fun c _ => ?_, ?_⟩
    · have hindex : (List.range' 0 c.2).Nodup := List.nodup_range'
      exact hindex.map fun i j hij => (readingKey_inj hij).2.2
    · have hdistinct : counts.Pairwise fun c c' => c.1 ≠ c'.1 :=
        List.pairwise_map.1 (hperm.nodup_iff.2 hsensor)
      refine hdistinct.imp fun hne => List.disjoint_left.2 fun key hkey hkey' => ?_
      obtain ⟨i, -, rfl⟩ := List.mem_map.1 hkey
      obtain ⟨i', -, heq⟩ := List.mem_map.1 hkey'
      exact hne (readingKey_inj heq).2.1.symm
  · have hkeys := hpermit.map (f := permitKey scenario.seed) fun name name' h => (permitKey_inj h).2
    rwa [List.map_map] at hkeys
  · intro key hkey key' hkey' heq
    obtain ⟨c, -, hkey⟩ := List.mem_flatMap.1 hkey
    obtain ⟨i, -, rfl⟩ := List.mem_map.1 hkey
    obtain ⟨e, -, rfl⟩ := List.mem_map.1 hkey'
    exact readingKey_ne_permitKey _ _ _ _ _ heq

/-- An id is resolved from a text with the scenario's seed. -/
theorem mem_generatedIds (hreadings : generateSensorReadings M T scenario = .ok readings)
    (hpermits : generatePermits T scenario = .ok permits) {id : Uuid}
    (h : id ∈ generatedIds readings permits) :
    (∃ name i, id = T.resolveId (readingKey scenario.seed name i)) ∨
      ∃ name, id = T.resolveId (permitKey scenario.seed name) := by
  obtain ⟨counts, -, hids⟩ := generateSensorReadings_ids hreadings
  unfold generatedIds at h
  rw [hids, generatePermits_ids hpermits, List.mem_append] at h
  rcases h with h | h
  · obtain ⟨key, hkey, rfl⟩ := List.mem_map.1 h
    obtain ⟨c, -, hkey⟩ := List.mem_flatMap.1 hkey
    obtain ⟨i, -, rfl⟩ := List.mem_map.1 hkey
    exact .inl ⟨c.1, i, rfl⟩
  · obtain ⟨key, hkey, rfl⟩ := List.mem_map.1 h
    obtain ⟨e, -, rfl⟩ := List.mem_map.1 hkey
    exact .inr ⟨e.name, rfl⟩

/-- **Seeds keep scenarios apart**: nothing two scenarios with distinct seeds generate has the same id. -/
theorem generated_disjoint (hT : Function.Injective T.resolveId) {scenario' : Scenario R}
    {readings' : List (GeneratedReading R Uuid)} {permits' : List (GeneratedPermit Uuid)}
    (hseed : scenario.seed ≠ scenario'.seed)
    (hreadings : generateSensorReadings M T scenario = .ok readings)
    (hpermits : generatePermits T scenario = .ok permits)
    (hreadings' : generateSensorReadings M T scenario' = .ok readings')
    (hpermits' : generatePermits T scenario' = .ok permits') :
    (generatedIds readings permits).Disjoint (generatedIds readings' permits') := by
  intro id h h'
  rcases mem_generatedIds hreadings hpermits h with ⟨name, i, rfl⟩ | ⟨name, rfl⟩
  · rcases mem_generatedIds hreadings' hpermits' h' with ⟨name', i', heq⟩ | ⟨name', heq⟩
    · exact hseed (readingKey_inj (hT heq)).1
    · exact readingKey_ne_permitKey _ _ _ _ _ (hT heq)
  · rcases mem_generatedIds hreadings' hpermits' h' with ⟨name', i', heq⟩ | ⟨name', heq⟩
    · exact readingKey_ne_permitKey _ _ _ _ _ (hT heq).symm
    · exact hseed (permitKey_inj (hT heq)).1

end Simulation
