import IndustrialSafety.Lib.Commute
import IndustrialSafety.Services.Proof.Ids
import IndustrialSafety.Services.Proof.Rerun
import IndustrialSafety.Services.Proof.Validate
import IndustrialSafety.Simulation.Proof.Reorder

/-!
# A builder scenario in another order

The events of a scenario in another order persist the same rows, and each zone has its readings in the
same order (`persistBuilderScenario_reordered`). The ticks read nothing else of them, but a zone's ticks
also read the latest assessments of the zones it interferes with, so they see which of these was replayed
before. That is the same in both orders, except between zones that start together.
-/

open Py Simulation

variable {R Uuid : Type} [Field R] [LinearOrder R] [FloorRing R] [IsStrictOrderedRing R]
  [DecidableEq Uuid] {M : Math R} {T : Text R Uuid} {scenario scenario' : Scenario R}
  {readings readings' : List (GeneratedReading R Uuid)} {db : Db R Uuid}

namespace SimulationRunner

omit [IsStrictOrderedRing R] [DecidableEq Uuid] in
/-- Where a zone has events of one gas type, any of them gives it. -/
theorem resolveZoneGasType_reordered (h : Reordered scenario scenario')
    (horderly : Orderly M T scenario) (zoneKey : String) :
    resolveZoneGasType scenario' zoneKey = resolveZoneGasType scenario zoneKey := by
  unfold resolveZoneGasType
  cases hfind : scenario.sensorEvents.find? (·.zoneKey = zoneKey) with
  | none =>
    have hnone : scenario'.sensorEvents.find? (·.zoneKey = zoneKey) = none :=
      List.find?_eq_none.2 fun e he => List.find?_eq_none.1 hfind e (h.sensorEvents.mem_iff.2 he)
    rw [hnone]
  | some e =>
    have he := List.mem_of_find?_eq_some hfind
    have hkey : e.zoneKey = zoneKey := by simpa using List.find?_some hfind
    cases hfind' : scenario'.sensorEvents.find? (·.zoneKey = zoneKey) with
    | none =>
      exact absurd (decide_eq_true hkey) (List.find?_eq_none.1 hfind' e (h.sensorEvents.mem_iff.1 he))
    | some e' =>
      have he' := h.sensorEvents.mem_iff.2 (List.mem_of_find?_eq_some hfind')
      have hkey' : e'.zoneKey = zoneKey := by simpa using List.find?_some hfind'
      exact congrArg some (horderly.oneGas e' he' e he (by rw [hkey, hkey']))

omit [Field R] [LinearOrder R] [FloorRing R] [IsStrictOrderedRing R] in
/-- The readings before a permit are readings of its zone. -/
theorem zoneReadings_congr (hsame : SameZoneReadings T readings readings')
    (zoneKey gasType : String) (issuedAt : DateTime) :
    zoneReadings readings' zoneKey gasType issuedAt = zoneReadings readings zoneKey gasType issuedAt := by
  have hzone : ∀ rs : List (GeneratedReading R Uuid), rs.filter (fun r => r.zoneKey = zoneKey ∧
      r.gasType = gasType ∧ r.timestamp.instant ≤ issuedAt.instant) =
        (rs.filter fun r => T.uuidOfStr r.zoneKey = T.uuidOfStr zoneKey).filter fun r =>
          r.zoneKey = zoneKey ∧ r.gasType = gasType ∧ r.timestamp.instant ≤ issuedAt.instant := by
    intro rs
    rw [List.filter_filter]
    refine List.filter_congr fun r _ => ?_
    by_cases hkey : r.zoneKey = zoneKey
    · simp [hkey]
    · simp [hkey]
  unfold zoneReadings
  rw [hzone readings', hzone readings, hsame]

omit [IsStrictOrderedRing R] in
theorem permitArgs_reordered (h : Reordered scenario scenario') (horderly : Orderly M T scenario)
    (hsame : SameZoneReadings T readings readings') {resolve : String → Result Uuid}
    (permit : GeneratedPermit Uuid) :
    permitArgs M T resolve scenario' readings' db permit =
      permitArgs M T resolve scenario readings db permit := by
  unfold permitArgs computeBaselineSnapshot
  simp only [resolveZoneGasType_reordered h horderly, zoneReadings_congr hsame, h.startTime]

omit [Field R] [LinearOrder R] [FloorRing R] [IsStrictOrderedRing R] in
/-- The placed readings of a zone are its readings, placed. -/
theorem filter_placed_congr (hsame : SameZoneReadings T readings readings')
    {ps ps' : List (PlacedReading R Uuid)}
    (h : readings.mapM (placeReading T.uuid db) = .ok ps)
    (h' : readings'.mapM (placeReading T.uuid db) = .ok ps') (zoneId : Uuid) :
    ps'.filter (·.zoneId = zoneId) = ps.filter (·.zoneId = zoneId) := by
  refine Except.filter_mapM_congr (fun r p hp => ?_) (hsame (some zoneId)) h h'
  obtain ⟨w, hw, hp⟩ := Except.bind_eq_ok.1 hp
  split at hp
  · cases hp
  · cases hp
    rw [decide_eq_true_iff, decide_eq_true_iff, T.uuid_eq_ok.1 hw, Option.some_inj]

/-- What a scenario in another order writes. -/
theorem Persists.reordered (h : Reordered scenario scenario') (horderly : Orderly M T scenario)
    (hstructure : validateStructure M scenario = .ok ()) {ps : List (PlacedReading R Uuid)}
    {args : List (PermitRepository.Args R Uuid)}
    (hpersists : Persists M T T.uuid scenario db readings ps args) :
    ∃ readings' ps' args', Persists M T T.uuid scenario' db readings' ps' args' ∧
      SameZoneReadings T readings readings' ∧ ps.Perm ps' ∧ args.Perm args' ∧
        ∀ zoneId : Uuid, ps'.filter (·.zoneId = zoneId) = ps.filter (·.zoneId = zoneId) := by
  obtain ⟨permits, hpermits, hargs⟩ := hpersists.permits
  obtain ⟨readings', hreadings', hperm⟩ := h.generateSensorReadings hpersists.generated
  obtain ⟨permits', hpermits', hpermitPerm⟩ := h.generatePermits hpermits
  have hsame := horderly.sameZoneReadings h hstructure hpersists.generated hreadings'
  obtain ⟨ps', hps', hpsPerm⟩ := Except.mapM_eq_ok_perm hperm hpersists.placed
  rw [← funext (permitArgs_reordered h horderly hsame)] at hargs
  obtain ⟨args', hargs', hargsPerm⟩ := Except.mapM_eq_ok_perm hpermitPerm hargs
  exact ⟨readings', ps', args', ⟨hreadings', hps', fun p hp => hpersists.fits p (hpsPerm.mem_iff.2 hp),
    ⟨permits', hpermits', hargs'⟩, fun a ha => hpersists.fitsPermit a (hargsPerm.mem_iff.2 ha)⟩,
    hsame, hpsPerm, hargsPerm, filter_placed_congr hsame hpersists.placed hps'⟩

end SimulationRunner

namespace RiskPipeline

open List

/-- The same rows for every query of a tick, the assessments aside. -/
structure SameInputs (s s' : Db R Uuid) : Prop where
  static : SameStatic s s'
  sensorReadings : ∀ zoneId : Uuid, s'.sensorReadings.rows.filter (·.zoneId = zoneId) =
    s.sensorReadings.rows.filter (·.zoneId = zoneId)
  permits : s.permits.rows ~ s'.permits.rows

section
variable {s s' t : Db R Uuid} {a : RiskAssessment R Uuid}

omit [Field R] [LinearOrder R] [FloorRing R] [IsStrictOrderedRing R] in
theorem SameInputs.refl (s : Db R Uuid) : SameInputs s s := ⟨.refl s, fun _ => rfl, .refl _⟩

omit [Field R] [LinearOrder R] [FloorRing R] [IsStrictOrderedRing R] in
theorem SameInputs.symm (h : SameInputs s s') : SameInputs s' s where
  static := ⟨h.static.zones.symm, h.static.zoneAdjacency.symm, h.static.sensors.symm,
    h.static.equipment.symm, h.static.workers.symm⟩
  sensorReadings zoneId := (h.sensorReadings zoneId).symm
  permits := h.permits.symm

omit [Field R] [LinearOrder R] [FloorRing R] [IsStrictOrderedRing R] in
theorem SameInputs.trans (h : SameInputs s s') (h' : SameInputs s' t) : SameInputs s t where
  static := ⟨h'.static.zones.trans h.static.zones,
    h'.static.zoneAdjacency.trans h.static.zoneAdjacency, h'.static.sensors.trans h.static.sensors,
    h'.static.equipment.trans h.static.equipment, h'.static.workers.trans h.static.workers⟩
  sensorReadings zoneId := (h'.sensorReadings zoneId).trans (h.sensorReadings zoneId)
  permits := h.permits.trans h'.permits

omit [Field R] [LinearOrder R] [FloorRing R] [IsStrictOrderedRing R] in
/-- Ticks do not write their inputs. -/
theorem SameInputs.persistAll (h : SameInputs s s') (as : List (RiskAssessment R Uuid)) :
    SameInputs s (persistAll s' as) := by
  rw [persistAll_eq]
  exact ⟨⟨h.static.zones, h.static.zoneAdjacency, h.static.sensors, h.static.equipment,
    h.static.workers⟩, h.sensorReadings, h.permits⟩

omit [Field R] [LinearOrder R] [FloorRing R] [IsStrictOrderedRing R] in
theorem SameInputs.openPermits (h : SameInputs s s') (zoneId : Uuid) :
    PermitRepository.listOpenByZone s zoneId ~ PermitRepository.listOpenByZone s' zoneId :=
  h.permits.filter _

omit [LinearOrder R] [FloorRing R] [IsStrictOrderedRing R] in
theorem SameInputs.interferes (h : SameInputs s s') {zoneId w : Uuid} :
    Interferes s' zoneId w ↔ Interferes s zoneId w := by
  unfold Interferes ZoneAdjacencyRepository.adjacentZoneIds
  rw [h.static.zoneAdjacency]
  simp only [(h.openPermits _).mem_iff]

omit [FloorRing R] [IsStrictOrderedRing R] in
/-- A tick reads its inputs and the latest assessments of the zones that its zone interferes with. -/
theorem SameInputs.sameQueries (h : SameInputs s s') {zoneId : Uuid}
    (hlatest : ∀ w, Interferes s zoneId w →
      RiskAssessmentRepository.latestByZone s' w = RiskAssessmentRepository.latestByZone s w)
    (gasType : String) : SameQueries s s' zoneId gasType := by
  have hzone : ∀ p : SensorReading R Uuid → Bool,
      s'.sensorReadings.rows.filter (fun r => decide (r.zoneId = zoneId) && p r) =
        s.sensorReadings.rows.filter fun r => decide (r.zoneId = zoneId) && p r := by
    intro p
    simp only [Bool.and_comm _ (p _), ← List.filter_filter, h.sensorReadings zoneId]
  refine ⟨h.static, fun before limit => ?_, ?_, h.openPermits zoneId,
    conflicts_congr h.static h.openPermits hlatest⟩
  · unfold SensorReadingRepository.recent
    simp only [Bool.decide_and, hzone]
  · unfold SensorReadingRepository.latest
    simp only [Bool.decide_and, hzone]

end

end RiskPipeline

namespace ScenarioBuilder

open SimulationRunner RiskPipeline Scheduler Tiering

/-! ## Zones replayed in another order -/

/-- The ticks of a group return. -/
def ZoneStep (M : Math R) (T : Text R Uuid) (group : (Uuid × String) × List DateTime)
    (s t : Db R Uuid) : Prop :=
  ∃ run, runZone M T group s = (.ok run, t)

/-- The states of a replay from `base`. -/
structure Replaying (T : Text R Uuid) (base s : Db R Uuid) : Prop where
  own : OwnIds T s
  inputs : SameInputs base s

/-- Neither zone's ticks read what the other's write. -/
def Apart (base : Db R Uuid) (g g' : (Uuid × String) × List DateTime) : Prop :=
  g.1.1 ≠ g'.1.1 ∧ ¬Interferes base g.1.1 g'.1.1 ∧ ¬Interferes base g'.1.1 g.1.1

/-- Every zone's assessments are the same, but for the zones of `Z`. -/
def SameRows (Z : Uuid → Prop) (s s' : Db R Uuid) : Prop :=
  ∀ w, ¬Z w → zoneRows s' w = zoneRows s w

section
variable {base s s' t : Db R Uuid} {group : (Uuid × String) × List DateTime} {Z : Uuid → Prop}

omit [Field R] [LinearOrder R] [FloorRing R] [IsStrictOrderedRing R] in
theorem Replaying.ticked (hT : Function.Injective T.resolveId) (h : Replaying T base s)
    (hticked : Ticked T Z s t) : Replaying T base t := by
  refine ⟨hticked.own hT h.own, ?_⟩
  obtain ⟨as, rfl, -⟩ := hticked
  exact h.inputs.persistAll as

omit [FloorRing R] in
theorem ZoneStep.ticked (h : ZoneStep M T group s t) : Ticked T (· = group.1.1) s t := by
  obtain ⟨run, hrun⟩ := h
  have hticked : Ticked T (· = group.1.1) s (runZone M T group s).2 :=
    runZone_ticked (Z := (· = group.1.1)) rfl s
  rwa [hrun] at hticked

omit [FloorRing R] in
/-- The ticks of a zone do not depend on the assessments of zones it does not interfere with. -/
theorem ZoneStep.sameRows (hT : Function.Injective T.resolveId) (hs : Replaying T base s)
    (hs' : Replaying T base s') (hrows : SameRows Z s s')
    (hquiet : ∀ w, Z w → ¬Interferes base group.1.1 w) (h : ZoneStep M T group s t) :
    ∃ t', ZoneStep M T group s' t' ∧ SameRows Z t t' := by
  have hkept : KeptByTicks T (fun s s' => Replaying T base s ∧ Replaying T base s' ∧ SameRows Z s s')
      group.1.1 := by
    rintro s s' a simTime ⟨hs, hs', hrows⟩ hzone htime hid
    have hone : ∀ b ∈ [a], IsTick T b := fun b hb =>
      List.mem_singleton.1 hb ▸ ⟨simTime, htime, hzone ▸ hid⟩
    have hticked : ∀ s, Ticked T (fun _ => True) s (persist s a) := fun s =>
      ⟨[a], rfl, fun b hb => ⟨hone b hb, trivial⟩⟩
    refine ⟨hs.ticked hT (hticked s), hs'.ticked hT (hticked s'), fun w hw => ?_⟩
    show zoneRows (persistAll s' [a]) w = zoneRows (persistAll s [a]) w
    rw [zoneRows_persistAll hT hs.own hone, zoneRows_persistAll hT hs'.own hone, hrows w hw]
  have hview : ∀ s s', (Replaying T base s ∧ Replaying T base s' ∧ SameRows Z s s') →
      SameQueries s s' group.1.1 group.1.2 := by
    rintro s s' ⟨hs, hs', hrows⟩
    refine (hs.inputs.symm.trans hs'.inputs).sameQueries (fun w hw => ?_) group.1.2
    exact latestByZone_congr (hrows w fun hZ => hquiet w hZ (hs.inputs.interferes.1 hw))
  obtain ⟨run, hrun⟩ := h
  have hlockstep : Service.Lockstep _ ZoneRun.Alike (runZone M T group s) (runZone M T group s') :=
    runZone_alike hkept hview rfl rfl ⟨hs, hs', hrows⟩
  rw [hrun] at hlockstep
  generalize hp : runZone M T group s' = p at hlockstep
  cases hlockstep with
  | ok _ hstates => exact ⟨_, ⟨_, hp⟩, hstates.2.2⟩

omit [FloorRing R] in
/-- Zones that are apart may be replayed in either order. -/
theorem commuting_zoneStep (hT : Function.Injective T.resolveId) (base : Db R Uuid) :
    Commute.Commuting (ZoneStep M T) (Replaying T base) (SameRows fun _ => False) (Apart base) where
  keeps _ _ _ hs hstep := hs.ticked hT hstep.ticked
  refl _ _ _ := rfl
  trans _ _ _ h h' w hw := (h' w hw).trans (h w hw)
  respects g s s' t hs hs' hrows hstep := hstep.sameRows hT hs hs' hrows nofun
  swap g g' s t u hs hapart hfirst hsecond := by
    obtain ⟨hne, hquiet, hquiet'⟩ := hapart
    have ht := hs.ticked hT hfirst.ticked
    -- the second zone's ticks do not read what the first one's wrote
    have hback : SameRows (· = g.1.1) t s := fun w hw =>
      (hfirst.ticked.zoneRows_eq hT hs.own hw).symm
    obtain ⟨t', hsecond', hrows'⟩ := hsecond.sameRows hT ht hs hback fun w hw => hw ▸ hquiet'
    -- nor the other way round
    have hforth : SameRows (· = g'.1.1) s t' := fun w hw =>
      hsecond'.ticked.zoneRows_eq hT hs.own hw
    have ht' := hs.ticked hT hsecond'.ticked
    obtain ⟨u', hfirst', hrows⟩ := hfirst.sameRows hT hs ht' hforth fun w hw => hw ▸ hquiet
    refine ⟨t', u', hsecond', hfirst', fun w _ => ?_⟩
    by_cases hw : w = g.1.1
    · rw [hrows w (hw ▸ hne), hsecond.ticked.zoneRows_eq hT ht.own (hw ▸ hne)]
    · rw [hfirst'.ticked.zoneRows_eq hT ht'.own hw, hrows' w hw]

end

/-! ## The groups -/

/-- The zone and gas type that a reading is grouped by. -/
def zoneGas (T : Text R Uuid) (r : GeneratedReading R Uuid) : Option (Uuid × String) :=
  (T.uuidOfStr r.zoneKey).map fun zoneId => (zoneId, r.gasType)

section
variable {startTime startTime' : String} {pairs pairs' : List ((Uuid × String) × DateTime)}

omit [Field R] [LinearOrder R] [FloorRing R] [IsStrictOrderedRing R] [DecidableEq Uuid] in
theorem map_fst_zonePairs (h : zonePairs T startTime readings = .ok pairs) :
    pairs.map Prod.fst = readings.filterMap (zoneGas T) := by
  have hmap : pairs.map (fun p => some p.1) = readings.map (zoneGas T) := by
    rw [eq_comm, ← List.forall₂_eq_eq_eq, List.forall₂_map_left_iff, List.forall₂_map_right_iff]
    refine (zonePairs_eq_ok.1 h).2.imp fun r p ⟨hzone, hgas, _⟩ => ?_
    rw [zoneGas, T.uuid_eq_ok.1 hzone, hgas]
    rfl
  have hsome := congrArg (List.filterMap id) hmap
  rw [List.filterMap_map, List.filterMap_map] at hsome
  rw [← List.filterMap_eq_map]
  exact hsome

omit [Field R] [LinearOrder R] [FloorRing R] [IsStrictOrderedRing R] in
/-- The same groups, in another order. -/
theorem group_zonePairs_perm (hsame : SameZoneReadings T readings readings')
    (h : zonePairs T startTime readings = .ok pairs)
    (h' : zonePairs T startTime' readings' = .ok pairs') :
    (Group.group pairs).Perm (Group.group pairs') := by
  refine Group.group_perm_of_filter fun k => (Except.filter_forall₂_congr
    (p := fun r => decide (r.gasType = k.2) && decide (T.uuidOfStr r.zoneKey = some k.1))
    (fun r p p' hp hp' => ?_) (fun r p hp => ?_) ?_ (zonePairs_eq_ok.1 h).2
    (zonePairs_eq_ok.1 h').2).symm
  · have hzone := Except.ok.inj (hp.1.symm.trans hp'.1)
    exact Prod.ext (Prod.ext hzone (hp.2.1.symm.trans hp'.2.1)) (hp.2.2.symm.trans hp'.2.2)
  · obtain ⟨hzone, hgas, -⟩ := hp
    obtain ⟨w, gas⟩ := k
    simp [T.uuid_eq_ok.1 hzone, hgas, and_comm, Prod.ext_iff]
  · rw [← List.filter_filter, ← List.filter_filter, hsame]

omit [IsStrictOrderedRing R] in
/-- A group is the one of an event's zone and gas type. -/
theorem exists_event_of_group (hreadings : generateSensorReadings M T scenario = .ok readings)
    (h : zonePairs T startTime readings = .ok pairs) {g : (Uuid × String) × List DateTime}
    (hg : g ∈ Group.group pairs) :
    ∃ e ∈ scenario.sensorEvents, T.uuidOfStr e.zoneKey = some g.1.1 ∧ e.gasType = g.1.2 := by
  have hkey := Group.mem_group_keys.1 (List.mem_map_of_mem (f := Prod.fst) hg)
  rw [map_fst_zonePairs h] at hkey
  obtain ⟨start, -, -, rfl⟩ := generateSensorReadings_eq_ok.1 hreadings
  obtain ⟨r, hr, hzoneGas⟩ := List.mem_filterMap.1 hkey
  obtain ⟨e, he, hr⟩ := List.mem_flatMap.1 hr
  obtain ⟨zoneId, hzone, hpair⟩ := Option.map_eq_some_iff.1 hzoneGas
  obtain ⟨hzoneKey, hgas⟩ := eventReadings_zone hr
  refine ⟨e, (List.mem_insertionSort _).1 he, ?_, ?_⟩
  · rw [← hzoneKey, hzone, ← hpair]
  · rw [← hgas, ← hpair]

omit [IsStrictOrderedRing R] in
theorem group_eq_of_zone (horderly : Orderly M T scenario)
    (hreadings : generateSensorReadings M T scenario = .ok readings)
    (h : zonePairs T startTime readings = .ok pairs) {g g' : (Uuid × String) × List DateTime}
    (hg : g ∈ Group.group pairs) (hg' : g' ∈ Group.group pairs) (hzone : g.1.1 = g'.1.1) : g = g' := by
  obtain ⟨e, he, hez, hegas⟩ := exists_event_of_group hreadings h hg
  obtain ⟨e', he', hez', hegas'⟩ := exists_event_of_group hreadings h hg'
  have hgas := horderly.oneGas e he e' he' (by rw [hez, hez', hzone])
  rw [hegas, hegas'] at hgas
  exact List.inj_on_of_nodup_map (Group.group_keys_nodup pairs) hg hg' (Prod.ext hzone hgas)

/-- Each zone is replayed after the ones that start before it. -/
theorem pairwise_group_zonePairs (horderly : Orderly M T scenario)
    (hstructure : validateStructure M scenario = .ok ())
    (hreadings : generateSensorReadings M T scenario = .ok readings)
    (h : zonePairs T startTime readings = .ok pairs) : (Group.group pairs).Pairwise fun g g' =>
      ¬StartsBefore T scenario (some g'.1.1) (some g.1.1) := by
  have hvalid := validateStructure_valid hstructure
  have hkeys : ((Group.group pairs).map Prod.fst).Pairwise fun k k' =>
      ¬StartsBefore T scenario (some k'.1) (some k.1) := by
    rw [Group.map_fst_group, map_fst_zonePairs h]
    obtain ⟨start, -, hevents, rfl⟩ := generateSensorReadings_eq_ok.1 hreadings
    have hkey : ∀ (e : SensorEvent R) (k : Uuid × String),
        k ∈ (eventReadings M T scenario.seed start e).filterMap (zoneGas T) →
          T.uuidOfStr e.zoneKey = some k.1 ∧ e.gasType = k.2 := by
      intro e k hk
      obtain ⟨r, hr, hk⟩ := List.mem_filterMap.1 hk
      obtain ⟨zoneId, hzone, rfl⟩ := Option.map_eq_some_iff.1 hk
      obtain ⟨hzoneKey, hgas⟩ := eventReadings_zone hr
      exact ⟨hzoneKey ▸ hzone, hgas.symm⟩
    rw [List.filterMap_flatMap]
    refine FirstOccurrence.pairwise_eraseDups_flatMap (fun e _ k hk k' hk' => ?_)
      fun front e hfront k hk hnew k' hk' => ?_
    · obtain ⟨hz, hgas⟩ := hkey e k hk
      obtain ⟨hz', hgas'⟩ := hkey e k' hk'
      exact Prod.ext (Option.some.inj (hz.symm.trans hz')) (hgas.symm.trans hgas')
    · obtain ⟨e', he', hk'⟩ := List.mem_flatMap.1 hk'
      obtain ⟨hz, hgas⟩ := hkey e k hk
      have hmem : ∀ x ∈ front ++ [e], x ∈ scenario.sensorEvents := fun x hx =>
        (List.mem_insertionSort _).1 (hfront.subset hx)
      rw [← hz, ← (hkey e' k' hk').1]
      refine not_startsBefore_of_prefix hfront (fun f hf hsame => hnew ?_) he'
      -- an earlier event of the zone has a reading, and that is one of the same gas type
      have hf' := hmem f (List.mem_append_left _ hf)
      obtain ⟨r, hr, -⟩ := exists_first_reading (hvalid.sensorEvent f hf') (hevents f hf')
      obtain ⟨hzoneKey, hrgas⟩ := eventReadings_zone hr
      refine List.mem_flatMap.2 ⟨f, hf, List.mem_filterMap.2 ⟨r, hr, ?_⟩⟩
      rw [zoneGas, hzoneKey, hsame, hz, hrgas, horderly.oneGas f hf' e (hmem e (by simp)) hsame, hgas]
      rfl
  exact List.pairwise_map.1 hkeys

/-! ## The replay -/

/-- Both orders replay the same groups, and each group after the ones that start before it. -/
structure GroupsReordered (T : Text R Uuid) (scenario : Scenario R)
    (groups groups' : List ((Uuid × String) × List DateTime)) : Prop where
  perm : groups.Perm groups'
  sorted : groups.Pairwise fun g g' => ¬StartsBefore T scenario (some g'.1.1) (some g.1.1)
  sorted' : groups'.Pairwise fun g g' => ¬StartsBefore T scenario (some g'.1.1) (some g.1.1)
  nodup : groups.Nodup
  tied : ∀ g ∈ groups, ∀ g' ∈ groups, g ≠ g' →
    ¬StartsBefore T scenario (some g'.1.1) (some g.1.1) →
      ¬StartsBefore T scenario (some g.1.1) (some g'.1.1) →
        g.1.1 ≠ g'.1.1 ∧ ∃ e ∈ scenario.sensorEvents, ∃ e' ∈ scenario.sensorEvents,
          T.uuidOfStr e.zoneKey = some g.1.1 ∧ T.uuidOfStr e'.zoneKey = some g'.1.1 ∧
            Tied T scenario e e'

theorem groupsReordered (h : Reordered scenario scenario') (horderly : Orderly M T scenario)
    (hstructure : validateStructure M scenario = .ok ())
    (hreadings : generateSensorReadings M T scenario = .ok readings)
    (hreadings' : generateSensorReadings M T scenario' = .ok readings')
    (hpairs : zonePairs T startTime readings = .ok pairs)
    (hpairs' : zonePairs T startTime' readings' = .ok pairs') :
    GroupsReordered T scenario (Group.group pairs) (Group.group pairs') where
  perm := group_zonePairs_perm (horderly.sameZoneReadings h hstructure hreadings hreadings') hpairs
    hpairs'
  sorted := pairwise_group_zonePairs horderly hstructure hreadings hpairs
  sorted' := by
    have hsorted := pairwise_group_zonePairs (h.orderly horderly) (h.validateStructure hstructure)
      hreadings' hpairs'
    simpa only [h.startsBefore] using hsorted
  nodup := List.Nodup.of_map Prod.fst (Group.group_keys_nodup pairs)
  tied g hg g' hg' hne hbefore hbefore' := by
    have hzones : g.1.1 ≠ g'.1.1 := fun hzone =>
      hne (group_eq_of_zone horderly hreadings hpairs hg hg' hzone)
    obtain ⟨e, he, hez, -⟩ := exists_event_of_group hreadings hpairs hg
    obtain ⟨e', he', hez', -⟩ := exists_event_of_group hreadings hpairs hg'
    refine ⟨hzones, e, he, e', he', hez, hez', ?_, ?_, ?_⟩
    · rw [hez, hez']
      exact fun hsame => hzones (Option.some.inj hsame)
    · rwa [hez, hez']
    · rwa [hez, hez']

end

section
variable {groups groups' : List ((Uuid × String) × List DateTime)} {d d' t : Db R Uuid}

omit [Field R] [FloorRing R] [IsStrictOrderedRing R] [DecidableEq Uuid] in
/-- Without a tie there is one order. -/
theorem GroupsReordered.eq (h : GroupsReordered T scenario groups groups')
    (hnone : ∀ e ∈ scenario.sensorEvents, ∀ e' ∈ scenario.sensorEvents, ¬Tied T scenario e e') :
    groups' = groups := by
  refine (List.Perm.eq_of_pairwise (fun g g' hg hg' hgg' hg'g => ?_) h.sorted h.sorted' h.perm).symm
  by_contra hne
  obtain ⟨-, e, he, e', he', -, -, htied⟩ := h.tied g hg g' (h.perm.mem_iff.2 hg') hne hgg' hg'g
  exact hnone e he e' he' htied

omit [FloorRing R] in
theorem mapM_runZone_sameInputs (hinputs : SameInputs d d')
    (hassessments : d'.riskAssessments = d.riskAssessments) :
    (groups.mapM (runZone M T) d').2.riskAssessments =
      (groups.mapM (runZone M T) d).2.riskAssessments := by
  let Same (s s' : Db R Uuid) : Prop := SameInputs s s' ∧ s'.riskAssessments = s.riskAssessments
  have hlockstep : Service.Lockstep Same (List.Forall₂ ZoneRun.Alike)
      (groups.mapM (runZone M T) d) (groups.mapM (runZone M T) d') := by
    refine Service.Lockstep.mapM (fun g _ s s' hs => ?_) ⟨hinputs, hassessments⟩
    refine runZone_alike ?_ (fun s s' hs => ?_) rfl rfl hs
    · rintro s s' a - ⟨hs, hrows⟩ - - -
      refine ⟨⟨⟨hs.static.zones, hs.static.zoneAdjacency, hs.static.sensors, hs.static.equipment,
        hs.static.workers⟩, hs.sensorReadings, hs.permits⟩, ?_⟩
      show s'.riskAssessments.upsert a = s.riskAssessments.upsert a
      rw [hrows]
    · refine hs.1.sameQueries (fun w _ => ?_) g.1.2
      unfold RiskAssessmentRepository.latestByZone
      rw [hs.2]
  exact hlockstep.state.2

omit [Field R] [LinearOrder R] [FloorRing R] [IsStrictOrderedRing R] in
/-- The same rows for every zone are the same rows. -/
theorem SameRows.perm {s s' : Db R Uuid} (h : SameRows (fun _ => False) s s') :
    s.riskAssessments.rows.Perm s'.riskAssessments.rows := by
  have hnodup : ∀ s : Db R Uuid, s.riskAssessments.rows.Nodup := fun s =>
    List.Nodup.of_map (fun a => (a.assessmentId, a.timestamp)) s.riskAssessments.nodup
  refine (List.perm_ext_iff_of_nodup (hnodup s) (hnodup s')).2 fun a => ?_
  have hmem : ∀ s : Db R Uuid, a ∈ s.riskAssessments.rows ↔ a ∈ (zoneRows s a.zoneId).rows := by
    intro s
    show _ ↔ a ∈ s.riskAssessments.rows.filter (·.zoneId = a.zoneId)
    rw [List.mem_filter, and_iff_left (decide_eq_true rfl)]
  rw [hmem s, hmem s', h a.zoneId nofun]

omit [FloorRing R] in
theorem GroupsReordered.assessments_perm (h : GroupsReordered T scenario groups groups')
    (hT : Function.Injective T.resolveId) (hown : OwnIds T d) (hinputs : SameInputs d d')
    (hassessments : d'.riskAssessments = d.riskAssessments)
    (hquiet : ∀ e ∈ scenario.sensorEvents, ∀ e' ∈ scenario.sensorEvents, Tied T scenario e e' →
      ∀ z ∈ T.uuidOfStr e.zoneKey, ∀ w ∈ T.uuidOfStr e'.zoneKey,
        ¬Interferes d z w ∧ ¬Interferes d w z)
    {runs : List (ZoneRun R Uuid)} (hruns : groups.mapM (runZone M T) d = (.ok runs, t)) :
    t.riskAssessments.rows.Perm (groups'.mapM (runZone M T) d').2.riskAssessments.rows := by
  have hcommuting := commuting_zoneStep (M := M) hT d
  have hd : Replaying T d d := ⟨hown, .refl d⟩
  have hd' : Replaying T d d' := by
    refine ⟨?_, hinputs⟩
    unfold OwnIds
    rw [hassessments]
    exact hown
  have hrows : SameRows (fun _ => False) d d' := fun w _ => by
    unfold zoneRows
    rw [hassessments]
  have hapart : ∀ g ∈ groups, ∀ g' ∈ groups, g ≠ g' →
      ¬StartsBefore T scenario (some g'.1.1) (some g.1.1) →
        ¬StartsBefore T scenario (some g.1.1) (some g'.1.1) → Apart d g g' := by
    intro g hg g' hg' hne hbefore hbefore'
    obtain ⟨hzones, e, he, e', he', hez, hez', htied⟩ := h.tied g hg g' hg' hne hbefore hbefore'
    exact ⟨hzones, hquiet e he e' he' htied _ hez _ hez'⟩
  obtain ⟨t₁, hrun₁, hrows₁⟩ := hcommuting.runs_perm hapart h.nodup h.perm h.sorted h.sorted' hd
    (Commute.mapM_returns.1 ⟨runs, hruns⟩)
  obtain ⟨t₂, hrun₂, hrows₂⟩ := hcommuting.runs_respects hd hd' hrows hrun₁
  obtain ⟨runs', hruns'⟩ := Commute.mapM_returns.2 hrun₂
  rw [hruns']
  exact hrows₁.perm.trans hrows₂.perm

end

/-! ## A builder run -/

omit [IsStrictOrderedRing R] in
theorem validateBuilderScenario_reordered (h : Reordered scenario scenario')
    (hvalid : validateBuilderScenario M T db scenario = .ok []) :
    validateBuilderScenario M T db scenario' = .ok [] := by
  rw [validateBuilderScenario_eq_nil] at hvalid ⊢
  obtain ⟨hstructure, hreferences, readings, hreadings, hvalues⟩ := hvalid
  obtain ⟨readings', hreadings', hperm⟩ := h.generateSensorReadings hreadings
  refine ⟨h.validateStructure hstructure, ⟨fun e he => ?_, fun e he => ?_, fun e he => ?_⟩, readings',
    hreadings', fun r hr => hvalues r (hperm.mem_iff.2 hr)⟩
  · exact hreferences.sensorEvent e (h.sensorEvents.mem_iff.2 he)
  · exact hreferences.permitZone e (h.permitEvents.mem_iff.2 he)
  · exact hreferences.permitOfficer e (h.permitEvents.mem_iff.2 he)

/-- What a valid scenario in another order leaves for the replay. -/
structure PersistedAlike (M : Math R) (T : Text R Uuid) (scenario scenario' : Scenario R)
    (readings readings' : List (GeneratedReading R Uuid)) (d d' : Db R Uuid) : Prop where
  generated : generateSensorReadings M T scenario = .ok readings
  generated' : generateSensorReadings M T scenario' = .ok readings'
  sensorReadings : d.sensorReadings.rows.Perm d'.sensorReadings.rows
  inputs : SameInputs d d'
  riskAssessments : d'.riskAssessments = d.riskAssessments
  resolved : (∃ pairs, zonePairs T scenario.startTime readings = .ok pairs) ↔
    ∃ pairs', zonePairs T scenario'.startTime readings' = .ok pairs'

theorem persistBuilderScenario_reordered (hT : Function.Injective T.resolveId)
    (h : Reordered scenario scenario') (horderly : Orderly M T scenario) {d : Db R Uuid}
    (hp : persistBuilderScenario M T scenario db = .ok (([], readings), d)) :
    ∃ readings' d', persistBuilderScenario M T scenario' db = .ok (([], readings'), d') ∧
      PersistedAlike M T scenario scenario' readings readings' d d' := by
  rcases persistBuilderScenario_eq_ok.1 hp with ⟨-, hne, -⟩ | ⟨hvalid, -, hpersist⟩
  · exact absurd rfl hne
  obtain ⟨hstructure, -⟩ := validateBuilderScenario_eq_nil.1 hvalid
  obtain ⟨ps, args, hpersists, rfl⟩ := persistScenario_eq_ok.1 hpersist
  obtain ⟨readings', ps', args', hpersists', hsame, hps, hargs, hzones⟩ :=
    hpersists.reordered h horderly hstructure
  obtain ⟨hkeys, hids⟩ := hpersists.keys_nodup fun permits hpermits =>
    generated_nodup hT hstructure hpersists.generated hpermits
  refine ⟨readings', persisted db ps' args', persistBuilderScenario_eq_ok.2 (.inr
    ⟨validateBuilderScenario_reordered h hvalid, rfl,
      persistScenario_eq_ok.2 ⟨ps', args', hpersists', rfl⟩⟩), ?_⟩
  obtain ⟨readings'', hreadings'', hperm⟩ := h.generateSensorReadings hpersists.generated
  cases hreadings''.symm.trans hpersists'.generated
  exact {
    generated := hpersists.generated
    generated' := hpersists'.generated
    sensorReadings := merging_reading.foldl_perm hps hkeys db.sensorReadings
    inputs := {
      static := ⟨rfl, rfl, rfl, rfl, rfl⟩
      sensorReadings := fun zoneId => merging_reading.filter_foldl_perm hps hkeys
        (p := (·.zoneId = zoneId)) (hzones zoneId).symm db.sensorReadings
      permits := merging_permit.foldl_perm hargs hids db.permits }
    riskAssessments := rfl
    resolved := by
      have hnil : readings ≠ [] ↔ readings' ≠ [] :=
        not_congr ⟨fun hnil => (hnil ▸ hperm).nil_eq.symm, fun hnil => (hnil ▸ hperm).eq_nil⟩
      simp only [zonePairs_total_iff, h.startTime, hperm.mem_iff, hnil] }

omit [IsStrictOrderedRing R] in
theorem persistBuilderScenario_riskAssessments {errors : List String} {d : Db R Uuid}
    (hp : persistBuilderScenario M T scenario db = .ok ((errors, readings), d)) :
    d.riskAssessments = db.riskAssessments := by
  rcases persistBuilderScenario_eq_ok.1 hp with ⟨-, -, -, rfl⟩ | ⟨-, -, hpersist⟩
  · rfl
  · obtain ⟨_, _, -, rfl⟩ := persistScenario_eq_ok.1 hpersist
    rfl

/-- **The order of the events** decides no reading and no permit of a valid scenario; and no assessment
either, if no two zones start together, or if those that do are apart and the run returns. -/
theorem executeBuilderScenario_reordered (hT : Function.Injective T.resolveId)
    (hvalid : validateBuilderScenario M T db scenario = .ok []) (horderly : Orderly M T scenario)
    (h : Reordered scenario scenario') :
    let first := executeBuilderScenario M T scenario db
    let second := executeBuilderScenario M T scenario' db
    first.2.sensorReadings.rows.Perm second.2.sensorReadings.rows ∧
    first.2.permits.rows.Perm second.2.permits.rows ∧
    ((∀ e ∈ scenario.sensorEvents, ∀ e' ∈ scenario.sensorEvents, ¬Tied T scenario e e') →
      second.2.riskAssessments = first.2.riskAssessments) ∧
    (OwnIds T db → (∃ result, first.1 = .ok result) →
      (∀ e ∈ scenario.sensorEvents, ∀ e' ∈ scenario.sensorEvents, Tied T scenario e e' →
        ∀ z ∈ T.uuidOfStr e.zoneKey, ∀ w ∈ T.uuidOfStr e'.zoneKey,
          ¬Interferes first.2 z w ∧ ¬Interferes first.2 w z) →
      first.2.riskAssessments.rows.Perm second.2.riskAssessments.rows) := by
  intro first second
  rcases hp : persistBuilderScenario M T scenario db with e | ⟨⟨errors, readings⟩, d⟩
  · -- what one order cannot persist, the other cannot either
    rcases hp' : persistBuilderScenario M T scenario' db with e' | ⟨⟨errors', readings'⟩, d'⟩
    · have hfirst : first = _ := execute_unpersisted hp
      have hsecond : second = _ := execute_unpersisted hp'
      rw [hfirst, hsecond]
      exact ⟨.refl _, .refl _, fun _ => rfl, fun _ _ _ => .refl _⟩
    · rcases persistBuilderScenario_eq_ok.1 hp' with ⟨hvalid', hne, -⟩ | ⟨-, rfl, -⟩
      · cases hvalid'.symm.trans (validateBuilderScenario_reordered h hvalid)
        exact absurd rfl hne
      · obtain ⟨_, _, hp'', -⟩ := persistBuilderScenario_reordered hT h.symm (h.orderly horderly) hp'
        cases hp.symm.trans hp''
  rcases persistBuilderScenario_eq_ok.1 hp with ⟨hvalid', hne, -⟩ | ⟨-, rfl, -⟩
  · cases hvalid'.symm.trans hvalid
    exact absurd rfl hne
  obtain ⟨hstructure, -⟩ := validateBuilderScenario_eq_nil.1 hvalid
  obtain ⟨readings', d', hp', halike⟩ := persistBuilderScenario_reordered hT h horderly hp
  have hfirst : first = _ := execute_persisted hp
  have hsecond : second = _ := execute_persisted hp'
  obtain ⟨as, has⟩ := replay_effect M T scenario.startTime readings d
  obtain ⟨as', has'⟩ := replay_effect M T scenario'.startTime readings' d'
  have hend : first.2 = persistAll d as := (congrArg Prod.snd hfirst).trans has
  have hend' : second.2 = persistAll d' as' := (congrArg Prod.snd hsecond).trans has'
  rcases hpairs : zonePairs T scenario.startTime readings with e | pairs
  · -- no tick in either order
    rcases hpairs' : zonePairs T scenario'.startTime readings' with e' | pairs'
    · have hstate : first.2 = d := by rw [hfirst, replay_apply, hpairs]
      have hstate' : second.2 = d' := by rw [hsecond, replay_apply, hpairs']
      rw [hstate, hstate', halike.riskAssessments]
      exact ⟨halike.sensorReadings, halike.inputs.permits, fun _ => rfl, fun _ _ _ => .refl _⟩
    · obtain ⟨pairs, hpairs''⟩ := halike.resolved.2 ⟨pairs', hpairs'⟩
      cases hpairs.symm.trans hpairs''
  obtain ⟨pairs', hpairs'⟩ := halike.resolved.1 ⟨pairs, hpairs⟩
  have hgroups := groupsReordered h horderly hstructure halike.generated halike.generated' hpairs hpairs'
  have hstate : first.2 = ((Group.group pairs).mapM (runZone M T) d).2 := by
    rw [hfirst, replay_apply, hpairs]
  have hstate' : second.2 = ((Group.group pairs').mapM (runZone M T) d').2 := by
    rw [hsecond, replay_apply, hpairs']
  refine ⟨?_, ?_, fun hnone => ?_, fun hown hreturns hquiet => ?_⟩
  · rw [hend, hend', persistAll_eq, persistAll_eq]
    exact halike.sensorReadings
  · rw [hend, hend', persistAll_eq, persistAll_eq]
    exact halike.inputs.permits
  · rw [hstate, hstate', hgroups.eq hnone]
    exact mapM_runZone_sameInputs halike.inputs halike.riskAssessments
  · have hinputs : SameInputs d first.2 := by
      rw [hend]
      exact (SameInputs.refl d).persistAll as
    have hownd : OwnIds T d := by
      unfold OwnIds
      rw [persistBuilderScenario_riskAssessments hp]
      exact hown
    obtain ⟨result, hresult⟩ := hreturns
    rcases hruns : (Group.group pairs).mapM (runZone M T) d with ⟨e | runs, t⟩
    · rw [hfirst, replay_apply, hpairs] at hresult
      dsimp only at hresult
      rw [hruns] at hresult
      cases hresult
    · rw [hruns] at hstate
      rw [hstate, hstate']
      refine hgroups.assessments_perm hT hownd halike.inputs halike.riskAssessments ?_ hruns
      intro e he e' he' htied z hz w hw
      obtain ⟨hzw, hwz⟩ := hquiet e he e' he' htied z hz w hw
      exact ⟨mt hinputs.interferes.2 hzw, mt hinputs.interferes.2 hwz⟩

/-- The events in reverse. -/
def authoredLastFirst (scenario : Scenario ℚ) : Scenario ℚ :=
  { scenario with sensorEvents := scenario.sensorEvents.reverse }

theorem reordered_lastFirst (scenario : Scenario ℚ) : Reordered scenario (authoredLastFirst scenario) :=
  ⟨rfl, rfl, (List.reverse_perm _).symm, .refl _⟩

/-- Two zones that start a minute apart; and two that start together, without an open permit. -/
theorem executeBuilderScenario_reordered_lastFirst :
    (let first := executeBuilderScenario Math.dyadic plainText (gasInBothZones 0 1) incompatibleZones
     let second := executeBuilderScenario Math.dyadic plainText
      (authoredLastFirst (gasInBothZones 0 1)) incompatibleZones
     first.2.sensorReadings.rows.Perm second.2.sensorReadings.rows ∧
      first.2.permits.rows.Perm second.2.permits.rows ∧
      second.2.riskAssessments = first.2.riskAssessments) ∧
    let db := { incompatibleZones with permits := Table.empty }
    (executeBuilderScenario Math.dyadic plainText (gasInBothZones 0 0) db).2.riskAssessments.rows.Perm
      (executeBuilderScenario Math.dyadic plainText
        (authoredLastFirst (gasInBothZones 0 0)) db).2.riskAssessments.rows := by
  refine ⟨?_, ?_⟩
  · have hvalid : (validateBuilderScenario Math.dyadic plainText incompatibleZones
        (gasInBothZones 0 1)).toOption = some [] := by decide +kernel
    have horderly : Orderly Math.dyadic plainText (gasInBothZones 0 1) := by decide +kernel
    obtain ⟨hreadings, hpermits, hassessments, -⟩ := executeBuilderScenario_reordered
      (plain_resolveId_injective _) (Except.toOption_eq_some.1 hvalid) horderly (reordered_lastFirst _)
    exact ⟨hreadings, hpermits, hassessments (by decide +kernel)⟩
  · intro db
    have hvalid : (validateBuilderScenario Math.dyadic plainText db
        (gasInBothZones 0 0)).toOption = some [] := by decide +kernel
    have horderly : Orderly Math.dyadic plainText (gasInBothZones 0 0) := by decide +kernel
    have hreturns : (executeBuilderScenario Math.dyadic plainText
        (gasInBothZones 0 0) db).1.toOption.isSome := by decide +kernel
    obtain ⟨result, hresult⟩ := Option.isSome_iff_exists.1 hreturns
    obtain ⟨-, -, -, hassessments⟩ := executeBuilderScenario_reordered
      (plain_resolveId_injective _) (Except.toOption_eq_some.1 hvalid) horderly (reordered_lastFirst _)
    exact hassessments (fun _ h => nomatch h) ⟨result, Except.toOption_eq_some.1 hresult⟩
      (by decide +kernel)

/-- Both zones start at minute 0 and interfere: the one that is authored first is replayed first, and the
other one sees its assessments. -/
theorem first_authored_first_replayed :
    let first := executeBuilderScenario Math.dyadic plainText (gasInBothZones 0 0) incompatibleZones
    let second := executeBuilderScenario Math.dyadic plainText
      (authoredLastFirst (gasInBothZones 0 0)) incompatibleZones
    (validateBuilderScenario Math.dyadic plainText incompatibleZones (gasInBothZones 0 0)).toOption =
      some [] ∧ Orderly Math.dyadic plainText (gasInBothZones 0 0) ∧
    Reordered (gasInBothZones 0 0) (authoredLastFirst (gasInBothZones 0 0)) ∧
    first.1.toOption.isSome ∧ second.1.toOption.isSome ∧
    first.2.riskAssessments.rows.map (fun a => (a.zoneId, a.timestamp, a.compoundRiskScore)) =
      [(1, 0, 4), (1, 60000000, 4), (2, 0, 100), (2, 60000000, 100)] ∧
    second.2.riskAssessments.rows.map (fun a => (a.zoneId, a.timestamp, a.compoundRiskScore)) =
      [(2, 0, 100), (2, 60000000, 100), (1, 0, 31), (1, 60000000, 31)] ∧
    ¬first.2.riskAssessments.rows.Perm second.2.riskAssessments.rows := by
  intro first second
  have hfirst : first.2.riskAssessments.rows.map (fun a =>
      (a.zoneId, a.timestamp, a.compoundRiskScore)) =
        [(1, 0, 4), (1, 60000000, 4), (2, 0, 100), (2, 60000000, 100)] := by decide +kernel
  have hsecond : second.2.riskAssessments.rows.map (fun a =>
      (a.zoneId, a.timestamp, a.compoundRiskScore)) =
        [(2, 0, 100), (2, 60000000, 100), (1, 0, 31), (1, 60000000, 31)] := by decide +kernel
  refine ⟨by decide +kernel, by decide +kernel, reordered_lastFirst _, by decide +kernel,
    by decide +kernel, hfirst, hsecond, fun hperm => ?_⟩
  have hmap := hperm.map fun a => (a.zoneId, a.timestamp, a.compoundRiskScore)
  rw [hfirst, hsecond] at hmap
  have hmem := hmap.mem_iff (a := (1, 0, 4))
  revert hmem
  decide +kernel

end ScenarioBuilder
