import IndustrialSafety.Api.Proof.Server
import IndustrialSafety.Db.Seed

/-!
# Seeding again

The session of `seed` merges the entries of the fixture into the tables of the plant and the permits, and
returns iff every entry satisfies its table's constraints in the database it leaves (`body_eq_ok`). So it
returns again whatever the process has done since, and restores no more than the fixture's own columns of
its own permits (`seed_again`).
-/

namespace Seed

open Py Table Transaction SimulationRunner

/-! ## One table -/

section
variable {R Uuid : Type} {α β γ κ : Type} [DecidableEq κ] {key : α → κ}
  {table : Db R Uuid → Table key} {store : Db R Uuid → Table key → Db R Uuid}
  {row : β → Option α → α} {argKey : β → κ} {check : Db R Uuid → β → Result Unit} {db db' : Db R Uuid}

/-- A table of the database, and a check that does not look at it. -/
structure Column (table : Db R Uuid → Table key) (store : Db R Uuid → Table key → Db R Uuid)
    (check : Db R Uuid → β → Result Unit) : Prop where
  table_store : ∀ db t, table (store db t) = t
  store_store : ∀ db t t', store (store db t) t' = store db t'
  store_table : ∀ db, store db (table db) = db
  check_store : ∀ db t b, check (store db t) b = check db b

theorem mergeObject_eq_ok {b : β} :
    (∃ a, mergeObject table store row argKey check b db = .ok (a, db')) ↔
      check db b = .ok () ∧ db' = store db ((table db).merge row argKey b) := by
  unfold mergeObject
  simp only [get_bind, lift_bind_eq_ok]
  constructor
  · rintro ⟨a, u, hcheck, h⟩
    cases h
    exact ⟨hcheck, rfl⟩
  · rintro ⟨hcheck, rfl⟩
    exact ⟨_, (), hcheck, rfl⟩

/-- The loop over the entries of one table. -/
theorem mapM_mergeObject_eq_ok (h : Column table store check) {args : γ → β} {l : List γ} :
    (∃ us, l.mapM (fun x => mergeObject table store row argKey check (args x)) db = .ok (us, db')) ↔
      (∀ x ∈ l, check db (args x) = .ok ()) ∧
        db' = store db ((l.map args).foldl (merge row argKey) (table db)) := by
  let fits (b : β) (s : Db R Uuid) : Prop := check s b = .ok ()
  let write (s : Db R Uuid) (b : β) : Db R Uuid := store s ((table s).merge row argKey b)
  have hfits : ∀ (s : Db R Uuid) (b c : β), True → (fits c (write s b) ↔ fits c s) := by
    intro s b c _
    show check (store s _) c = _ ↔ _
    rw [h.check_store]
  have hstep : ∀ (x : γ) (s s' : Db R Uuid), True →
      ((∃ a, mergeObject table store row argKey check (args x) s = .ok (a, s')) ↔
        ∃ b, (.ok (args x) : Result β) = .ok b ∧ fits b s ∧ s' = write s b) := by
    intro x s s' _
    rw [mergeObject_eq_ok]
    constructor
    · exact fun hx => ⟨_, rfl, hx⟩
    · rintro ⟨b, hb, hx⟩
      cases hb
      exact hx
  have hwrite : ∀ (bs : List β) (s : Db R Uuid),
      bs.foldl write s = store s (bs.foldl (merge row argKey) (table s)) := by
    intro bs
    induction bs with
    | nil => exact fun s => (h.store_table s).symm
    | cons b bs ih =>
      intro s
      rw [List.foldl_cons, ih, h.table_store, h.store_store]
      rfl
  have hargs : l.mapM (fun x => (.ok (args x) : Result β)) = .ok (l.map args) :=
    Except.mapM_ok fun _ _ => rfl
  rw [mapM_apply_eq_ok (I := fun _ => True) (fun _ _ h => h) hfits hstep trivial, hargs]
  constructor
  · rintro ⟨bs, hbs, hall, rfl⟩
    cases hbs
    exact ⟨fun x hx => hall _ (List.mem_map_of_mem hx), hwrite _ _⟩
  · rintro ⟨hall, rfl⟩
    exact ⟨_, rfl, List.forall_mem_map.2 hall, (hwrite _ _).symm⟩

end

/-! ## The session -/

section
variable {R Uuid : Type}

theorem merging_zone : Merging (fun z : Zone R Uuid => z.zoneId) ZoneRepository.Args.row
    ZoneRepository.Args.zoneId := ⟨fun _ _ => rfl, fun _ _ _ _ => rfl⟩

theorem merging_adjacency : Merging (fun a : ZoneAdjacency Uuid => (a.zoneId, a.adjacentZoneId))
    (fun a _ => a) (fun a => (a.zoneId, a.adjacentZoneId)) := ⟨fun _ _ => rfl, fun _ _ _ _ => rfl⟩

theorem merging_sensor : Merging (fun s : Sensor R Uuid => s.sensorId) SensorRepository.Args.row
    SensorRepository.Args.sensorId := ⟨fun _ _ => rfl, fun _ _ _ _ => rfl⟩

theorem merging_worker : Merging (fun w : Worker Uuid => w.workerId) (fun w _ => w)
    Worker.workerId := ⟨fun _ _ => rfl, fun _ _ _ _ => rfl⟩

theorem merging_equipment : Merging (fun e : Equipment Uuid => e.equipmentId)
    EquipmentRepository.Args.row EquipmentRepository.Args.equipmentId :=
  ⟨fun _ _ => rfl, fun _ _ _ _ => rfl⟩

variable [DecidableEq Uuid] [Field R] [LinearOrder R] (M : Math R) (T : Text R Uuid)
  (isDate : String → Bool) (data : Fixture R)

/-- The constraints on the entries, as the database has them. -/
structure Fits (permits : List (PermitRepository.Args R Uuid)) (db : Db R Uuid) : Prop where
  zones : ∀ z ∈ data.zones, ZoneRepository.Args.check db (z.args T) = .ok ()
  zoneAdjacency : ∀ a ∈ data.zoneAdjacency, ZoneAdjacencyRepository.check db (a.row T) = .ok ()
  sensors : ∀ s ∈ data.sensors, SensorRepository.Args.check db (s.args T) = .ok ()
  workers : ∀ w ∈ data.workers, WorkerRepository.check db (w.row T) = .ok ()
  equipment : ∀ e ∈ data.equipment, EquipmentRepository.Args.check db (e.args T) = .ok ()
  permits : ∀ args ∈ permits, args.permitType ∈ permitTypes ∧ (db.zones.get? args.zoneId).isSome ∧
    (db.workers.get? args.authorizingOfficerId).isSome
  incidents : ∃ incidents, data.incidents.mapM (fun i => i.args T isDate) = .ok incidents ∧
    ∀ args ∈ incidents, IncidentRepository.Args.check db args = .ok ()

/-- The database with the entries. -/
def written (permits : List (PermitRepository.Args R Uuid)) (db : Db R Uuid) : Db R Uuid :=
  { db with
    zones := (data.zones.map (·.args T)).foldl
      (merge ZoneRepository.Args.row ZoneRepository.Args.zoneId) db.zones
    zoneAdjacency := (data.zoneAdjacency.map (·.row T)).foldl
      (merge (fun a _ => a) fun a => (a.zoneId, a.adjacentZoneId)) db.zoneAdjacency
    sensors := (data.sensors.map (·.args T)).foldl
      (merge SensorRepository.Args.row SensorRepository.Args.sensorId) db.sensors
    workers := (data.workers.map (·.row T)).foldl (merge (fun w _ => w) Worker.workerId) db.workers
    equipment := (data.equipment.map (·.args T)).foldl
      (merge EquipmentRepository.Args.row EquipmentRepository.Args.equipmentId) db.equipment
    permits := permits.foldl
      (merge PermitRepository.Args.row PermitRepository.Args.permitId) db.permits }

variable {M T isDate data} {permits : List (PermitRepository.Args R Uuid)} {db db' : Db R Uuid}

/-! The loops over the tables of the plant. -/

omit [Field R] [LinearOrder R] in
theorem zones_eq_ok :
    (∃ us, data.zones.mapM (fun x => ZoneRepository.create (x.args T)) db = .ok (us, db')) ↔
      (∀ x ∈ data.zones, ZoneRepository.Args.check db (x.args T) = .ok ()) ∧ db' = { db with
        zones := (data.zones.map (·.args T)).foldl
          (merge ZoneRepository.Args.row ZoneRepository.Args.zoneId) db.zones } := by
  have h : Column (fun db : Db R Uuid => db.zones) (fun db zones => { db with zones })
      ZoneRepository.Args.check := ⟨fun _ _ => rfl, fun _ _ _ => rfl, fun _ => rfl, fun _ _ _ => rfl⟩
  exact mapM_mergeObject_eq_ok h

omit [Field R] [LinearOrder R] in
theorem zoneAdjacency_eq_ok :
    (∃ us, data.zoneAdjacency.mapM (fun x => ZoneAdjacencyRepository.create (x.row T)) db = .ok (us, db')) ↔
      (∀ x ∈ data.zoneAdjacency, ZoneAdjacencyRepository.check db (x.row T) = .ok ()) ∧ db' = { db with
        zoneAdjacency := (data.zoneAdjacency.map (·.row T)).foldl
          (merge (fun a _ => a) fun a => (a.zoneId, a.adjacentZoneId)) db.zoneAdjacency } := by
  have h : Column (fun db : Db R Uuid => db.zoneAdjacency) (fun db zoneAdjacency => { db with zoneAdjacency })
      ZoneAdjacencyRepository.check := ⟨fun _ _ => rfl, fun _ _ _ => rfl, fun _ => rfl, fun _ _ _ => rfl⟩
  exact mapM_mergeObject_eq_ok h

omit [Field R] [LinearOrder R] in
theorem sensors_eq_ok :
    (∃ us, data.sensors.mapM (fun x => SensorRepository.create (x.args T)) db = .ok (us, db')) ↔
      (∀ x ∈ data.sensors, SensorRepository.Args.check db (x.args T) = .ok ()) ∧ db' = { db with
        sensors := (data.sensors.map (·.args T)).foldl
          (merge SensorRepository.Args.row SensorRepository.Args.sensorId) db.sensors } := by
  have h : Column (fun db : Db R Uuid => db.sensors) (fun db sensors => { db with sensors })
      SensorRepository.Args.check := ⟨fun _ _ => rfl, fun _ _ _ => rfl, fun _ => rfl, fun _ _ _ => rfl⟩
  exact mapM_mergeObject_eq_ok h

omit [Field R] [LinearOrder R] in
theorem workers_eq_ok :
    (∃ us, data.workers.mapM (fun x => WorkerRepository.create (x.row T)) db = .ok (us, db')) ↔
      (∀ x ∈ data.workers, WorkerRepository.check db (x.row T) = .ok ()) ∧ db' = { db with
        workers := (data.workers.map (·.row T)).foldl
          (merge (fun w _ => w) Worker.workerId) db.workers } := by
  have h : Column (fun db : Db R Uuid => db.workers) (fun db workers => { db with workers })
      WorkerRepository.check := ⟨fun _ _ => rfl, fun _ _ _ => rfl, fun _ => rfl, fun _ _ _ => rfl⟩
  exact mapM_mergeObject_eq_ok h

omit [Field R] [LinearOrder R] in
theorem equipment_eq_ok :
    (∃ us, data.equipment.mapM (fun x => EquipmentRepository.create (x.args T)) db = .ok (us, db')) ↔
      (∀ x ∈ data.equipment, EquipmentRepository.Args.check db (x.args T) = .ok ()) ∧ db' = { db with
        equipment := (data.equipment.map (·.args T)).foldl
          (merge EquipmentRepository.Args.row EquipmentRepository.Args.equipmentId) db.equipment } := by
  have h : Column (fun db : Db R Uuid => db.equipment) (fun db equipment => { db with equipment })
      EquipmentRepository.Args.check := ⟨fun _ _ => rfl, fun _ _ _ => rfl, fun _ => rfl, fun _ _ _ => rfl⟩
  exact mapM_mergeObject_eq_ok h

theorem permits_eq_ok : (∃ us, data.permits.mapM (PermitEntry.create M T) db = .ok (us, db')) ↔
    ∃ permits, data.permits.mapM (fun p => p.args M T) = .ok permits ∧
      (∀ args ∈ permits, args.permitType ∈ permitTypes ∧ (db.zones.get? args.zoneId).isSome ∧
        (db.workers.get? args.authorizingOfficerId).isSome) ∧ db' = { db with
          permits := permits.foldl
            (merge PermitRepository.Args.row PermitRepository.Args.permitId) db.permits } := by
  simp only [← fitsPermit_iff, ← foldl_mergePermit]
  refine mapM_apply_eq_ok (I := fun _ => True) (fun _ _ h => h) (fun s b c _ => ?_)
    (fun p s s' _ => ?_) trivial
  · rw [fitsPermit_iff, fitsPermit_iff]
    rfl
  · unfold PermitEntry.create
    simp only [lift_bind_eq_ok, PermitRepository.create_eq_ok]
    constructor
    · rintro ⟨u, args, hargs, rfl, hfits, hs⟩
      exact ⟨args, hargs, hfits, hs⟩
    · rintro ⟨args, hargs, hfits, hs⟩
      exact ⟨_, args, hargs, rfl, hfits, hs⟩

omit [Field R] [LinearOrder R] in
/-- The entries of the incidents are only checked. -/
theorem incidents_eq_ok :
    (∃ us, data.incidents.mapM (IncidentEntry.create T isDate) db = .ok (us, db')) ↔
      (∃ incidents, data.incidents.mapM (fun i => i.args T isDate) = .ok incidents ∧
        ∀ args ∈ incidents, IncidentRepository.Args.check db args = .ok ()) ∧ db' = db := by
  have hstep : ∀ (i : IncidentEntry) (s s' : Db R Uuid), True →
      ((∃ u, IncidentEntry.create T isDate i s = .ok (u, s')) ↔
        ∃ args, i.args T isDate = .ok args ∧ IncidentRepository.Args.check s args = .ok () ∧
          s' = (fun s _ => s) s args) := by
    intro i s s' _
    unfold IncidentEntry.create IncidentRepository.create
    simp only [lift_bind_eq_ok, get_bind, lift_eq_ok]
    constructor
    · rintro ⟨u, args, hargs, hcheck, hs⟩
      exact ⟨args, hargs, hcheck, hs⟩
    · rintro ⟨args, hargs, hcheck, hs⟩
      exact ⟨(), args, hargs, hcheck, hs⟩
  rw [mapM_apply_eq_ok (I := fun _ => True) (fun _ _ h => h) (fun _ _ _ _ => Iff.rfl) hstep trivial]
  have hsame : ∀ incidents : List (IncidentRepository.Args Uuid),
      incidents.foldl (fun s _ => s) db = db := fun incidents => by
    induction incidents with
    | nil => rfl
    | cons _ _ ih => exact ih
  constructor
  · rintro ⟨incidents, hargs, hcheck, rfl⟩
    exact ⟨⟨incidents, hargs, hcheck⟩, hsame incidents⟩
  · rintro ⟨⟨incidents, hargs, hcheck⟩, rfl⟩
    exact ⟨incidents, hargs, hcheck, (hsame incidents).symm⟩

omit [DecidableEq Uuid] [Field R] [LinearOrder R] in
theorem seq_eq_ok {α β : Type} {m : Session R Uuid α} {k : Session R Uuid β} :
    (∃ b, (m >>= fun _ => k) db = .ok (b, db')) ↔
      ∃ db₁, (∃ a, m db = .ok (a, db₁)) ∧ ∃ b, k db₁ = .ok (b, db') := by
  constructor
  · rintro ⟨b, h⟩
    obtain ⟨a, db₁, hm, hk⟩ := bind_eq_ok.1 h
    exact ⟨db₁, ⟨a, hm⟩, b, hk⟩
  · rintro ⟨db₁, ⟨a, hm⟩, b, hk⟩
    exact ⟨b, bind_eq_ok.2 ⟨a, db₁, hm, hk⟩⟩

/-- **When the session returns, and what it writes.** -/
theorem body_eq_ok : (∃ u, body M T isDate data db = .ok (u, db')) ↔
    ∃ permits, data.permits.mapM (fun p => p.args M T) = .ok permits ∧
      Fits T isDate data permits (written T data permits db) ∧ db' = written T data permits db := by
  simp only [body, seq_eq_ok, zones_eq_ok, zoneAdjacency_eq_ok, sensors_eq_ok, workers_eq_ok,
    equipment_eq_ok, permits_eq_ok, incidents_eq_ok, pure_eq_ok]
  constructor
  · rintro ⟨_, ⟨hzones, rfl⟩, _, ⟨hadjacency, rfl⟩, _, ⟨hsensors, rfl⟩, _, ⟨hworkers, rfl⟩, _,
      ⟨hequipment, rfl⟩, _, ⟨permits, hargs, hpermits, rfl⟩, _, ⟨hincidents, rfl⟩, u, -, rfl⟩
    exact ⟨permits, hargs, ⟨hzones, hadjacency, hsensors, hworkers, hequipment, hpermits, hincidents⟩,
      rfl⟩
  · rintro ⟨permits, hargs, h, rfl⟩
    exact ⟨_, ⟨h.zones, rfl⟩, _, ⟨h.zoneAdjacency, rfl⟩, _, ⟨h.sensors, rfl⟩, _, ⟨h.workers, rfl⟩, _,
      ⟨h.equipment, rfl⟩, _, ⟨permits, hargs, h.permits, rfl⟩, _, ⟨h.incidents, rfl⟩, (), trivial, rfl⟩

theorem seed_eq_ok : seed M T isDate data db = (.ok (), db') ↔
    ∃ permits, data.permits.mapM (fun p => p.args M T) = .ok permits ∧
      Fits T isDate data permits (written T data permits db) ∧ db' = written T data permits db := by
  rw [← body_eq_ok, seed, Service.transaction]
  constructor
  · intro h
    split at h
    · rename_i u s hbody
      exact ⟨u, (Prod.mk.inj h).2 ▸ hbody⟩
    · cases h
  · rintro ⟨u, h⟩
    rw [h]

/-! ## The plant again -/

omit [Field R] [LinearOrder R] in
/-- The plant is there already: only permits are written. -/
theorem written_again {db₂ : Db R Uuid} (h : SameStatic (written T data permits db) db₂) :
    written T data permits db₂ = { db₂ with
      permits := permits.foldl
        (merge PermitRepository.Args.row PermitRepository.Args.permitId) db₂.permits } := by
  unfold written
  rw [h.zones, h.zoneAdjacency, h.sensors, h.workers, h.equipment]
  dsimp only [written]
  rw [merging_zone.foldl_again, merging_adjacency.foldl_again, merging_sensor.foldl_again,
    merging_worker.foldl_again, merging_equipment.foldl_again]

omit [Field R] [LinearOrder R] in
/-- The constraints on the entries are about zones and workers. -/
theorem Fits.congr {db₂ : Db R Uuid} (h : Fits T isDate data permits db)
    (hzones : db₂.zones = db.zones) (hworkers : db₂.workers = db.workers) :
    Fits T isDate data permits db₂ := by
  have heq : db₂ = { db₂ with zones := db.zones, workers := db.workers } := by
    rw [← hzones, ← hworkers]
  rw [heq]
  exact ⟨h.zones, h.zoneAdjacency, h.sensors, h.workers, h.equipment, h.permits, h.incidents⟩

/-- **Seeding a seeded plant** returns, whatever happened to readings, permits and assessments since. -/
theorem seed_again {db₁ db₂ : Db R Uuid} (h : seed M T isDate data db = (.ok (), db₁))
    (hstatic : SameStatic db₁ db₂) : ∃ permits, data.permits.mapM (fun p => p.args M T) = .ok permits ∧
      (∀ args ∈ permits, FitsPermit args db₂) ∧
      seed M T isDate data db₂ = (.ok (), { db₂ with
        permits := permits.foldl
          (merge PermitRepository.Args.row PermitRepository.Args.permitId) db₂.permits }) := by
  obtain ⟨permits, hargs, hfits, rfl⟩ := seed_eq_ok.1 h
  have hagain := written_again hstatic
  refine ⟨permits, hargs, fun args hmem => ?_, seed_eq_ok.2 ⟨permits, hargs, ?_, hagain.symm⟩⟩
  · rw [fitsPermit_iff, hstatic.zones, hstatic.workers]
    exact hfits.permits args hmem
  · rw [hagain]
    exact hfits.congr hstatic.zones hstatic.workers

omit [Field R] [LinearOrder R] in
/-- Of a permit the status is kept, and all of it unless the fixture has its id. -/
theorem merged_permit {permits : List (PermitRepository.Args R Uuid)}
    {t : Table fun p : Permit R Uuid => p.permitId} {p : Permit R Uuid} (hp : p ∈ t) :
    ∃ p' ∈ permits.foldl (merge PermitRepository.Args.row PermitRepository.Args.permitId) t,
      p'.permitId = p.permitId ∧ p'.status = p.status ∧
        (p.permitId ∉ permits.map PermitRepository.Args.permitId → p' = p) := by
  have hget := merging_permit.get?_foldl permits t p.permitId
  rw [get?_eq_some.2 ⟨hp, rfl⟩] at hget
  cases hlast : permits.reverse.find? (fun args => args.permitId = p.permitId) with
  | none =>
    rw [hlast] at hget
    exact ⟨p, (get?_eq_some.1 hget).1, rfl, rfl, fun _ => rfl⟩
  | some args =>
    rw [hlast] at hget
    have hid : args.permitId = p.permitId := by simpa using List.find?_some hlast
    have hmem : args ∈ permits := List.mem_reverse.1 (List.mem_of_find?_eq_some hlast)
    exact ⟨_, (get?_eq_some.1 hget).1, hid, rfl, fun hnew =>
      absurd (List.mem_map.2 ⟨args, hmem, hid⟩) hnew⟩

omit [Field R] [LinearOrder R] in
theorem sound_mergePermits (hordered : ∀ args ∈ permits, args.issuedAt ≤ args.expiresAt)
    (hfits : ∀ args ∈ permits, FitsPermit args db) : Sound db (permits.foldl mergePermit db) := by
  induction permits generalizing db with
  | nil => exact Std.Refl.refl db
  | cons args permits ih =>
    rw [List.forall_mem_cons] at hordered hfits
    have hfirst : Sound db (mergePermit db args) := sound_permit fun _ => ⟨hfits.1, hordered.1⟩
    exact IsTrans.trans _ _ _ hfirst (ih hordered.2 fun a ha =>
      (fitsPermit_static hfirst.static).2 (hfits.2 a ha))

/-! ## A seeded plant is consistent -/

/-- The permits of the fixture expire no earlier than they are issued. -/
def Fixture.Ordered (T : Text R Uuid) (data : Fixture R) : Prop :=
  ∀ p ∈ data.permits, ∀ issuedAt ∈ T.fromisoformat p.issuedAt,
    ∀ expiresAt ∈ T.fromisoformat p.expiresAt, issuedAt.instant ≤ expiresAt.instant

omit [DecidableEq Uuid] in
theorem ordered_args (h : data.Ordered T)
    (hargs : data.permits.mapM (fun p => p.args M T) = .ok permits) :
    ∀ args ∈ permits, args.issuedAt ≤ args.expiresAt := by
  intro args hmem
  obtain ⟨p, hp, hargs⟩ := Except.mem_of_mapM_eq_ok hargs hmem
  obtain ⟨issuedAt, hissued, hargs⟩ := Except.bind_eq_ok.1 hargs
  obtain ⟨expiresAt, hexpires, hargs⟩ := Except.bind_eq_ok.1 hargs
  obtain ⟨baseline, -, hargs⟩ := Except.bind_eq_ok.1 hargs
  cases hargs
  exact h p hp _ (T.datetime_eq_ok.1 hissued) _ (T.datetime_eq_ok.1 hexpires)

/-- No row is lost. -/
theorem rows_foldl_merge {α β κ : Type} [DecidableEq κ] {key : α → κ} (make : β → Option α → α)
    (argKey : β → κ) (l : List β) (t : Table key) : Keeps.Rows t (l.foldl (merge make argKey) t) := by
  induction l generalizing t with
  | nil => exact .refl t
  | cons b l ih => exact (Keeps.Rows.upsert t _).trans (ih _)

theorem of_mem_foldl {α β κ : Type} [DecidableEq κ] {key : α → κ} {make : β → Option α → α}
    {argKey : β → κ} (h : Merging key make argKey) {l : List β} {t : Table key} {x : α}
    (hx : x ∈ l.foldl (merge make argKey) t) : x ∈ t ∨ ∃ b ∈ l, ∃ e, x = make b e := by
  rcases h.mem_foldl.1 hx with ⟨hold, -⟩ | ⟨b, hb, hx⟩
  · exact .inl hold
  · exact .inr ⟨b, List.mem_reverse.1 (List.mem_of_find?_eq_some hb), _, hx⟩

omit [Field R] [LinearOrder R] in
theorem adjacency_check {a : ZoneAdjacency Uuid} : ZoneAdjacencyRepository.check db a = .ok () ↔
    a.zoneId ≠ a.adjacentZoneId ∧ (db.zones.get? a.zoneId).isSome ∧
      (db.zones.get? a.adjacentZoneId).isSome := by
  simp [ZoneAdjacencyRepository.check, Except.bind_eq_ok, checkConstraint_ok]

omit [Field R] [LinearOrder R] in
theorem sensor_check {args : SensorRepository.Args R Uuid} :
    SensorRepository.Args.check db args = .ok () ↔
      args.gasType ∈ gasTypes ∧ (db.zones.get? args.zoneId).isSome := by
  simp [SensorRepository.Args.check, Except.bind_eq_ok, checkConstraint_ok]

omit [Field R] [LinearOrder R] in
theorem equipment_check {args : EquipmentRepository.Args Uuid} :
    EquipmentRepository.Args.check db args = .ok () ↔
      args.isolationStatus ∈ isolationStatuses ∧ (db.zones.get? args.zoneId).isSome := by
  simp [EquipmentRepository.Args.check, Except.bind_eq_ok, checkConstraint_ok]

omit [Field R] [LinearOrder R] in
theorem worker_check {w : Worker Uuid} : WorkerRepository.check db w = .ok () ↔
    w.role ∈ workerRoles ∧ ∀ z ∈ w.currentZoneId, (db.zones.get? z).isSome := by
  simp [WorkerRepository.check, Except.bind_eq_ok, checkConstraint_ok, Option.all_eq_true]

omit [DecidableEq Uuid] in
theorem args_permitId {p : PermitEntry} {args : PermitRepository.Args R Uuid}
    (h : p.args M T = .ok args) : args.permitId = T.resolveId p.id := by
  obtain ⟨issuedAt, -, h⟩ := Except.bind_eq_ok.1 h
  obtain ⟨expiresAt, -, h⟩ := Except.bind_eq_ok.1 h
  obtain ⟨baseline, -, h⟩ := Except.bind_eq_ok.1 h
  cases h
  rfl

/-- **A freshly seeded plant is consistent.** -/
theorem seed_consistent {db₁ : Db R Uuid} (hdb : Consistent db) (hempty : db.sensorReadings.rows = [])
    (hordered : data.Ordered T) (h : seed M T isDate data db = (.ok (), db₁)) : Consistent db₁ := by
  obtain ⟨permits, hargs, hfits, rfl⟩ := seed_eq_ok.1 h
  have hzones : ∀ {z : Uuid}, (db.zones.get? z).isSome →
      ((written T data permits db).zones.get? z).isSome := fun h =>
    (rows_foldl_merge _ _ _ db.zones).isSome h
  have hworkers : ∀ {w : Uuid}, (db.workers.get? w).isSome →
      ((written T data permits db).workers.get? w).isSome := fun h =>
    (rows_foldl_merge _ _ _ db.workers).isSome h
  have hnone : ∀ r, r ∉ (written T data permits db).sensorReadings := fun r hr => by
    rw [Table.mem_def, show (written T data permits db).sensorReadings.rows = [] from hempty] at hr
    cases hr
  refine ⟨⟨fun a ha => ?_, fun s hs => ?_, fun e he => ?_, fun w hw => ?_,
    fun r hr => absurd hr (hnone r), fun p hp => ?_, fun a ha => hzones (hdb.constrained.assessment a ha)⟩,
    fun r hr => absurd hr (hnone r), fun p hp => ?_⟩
  · rcases of_mem_foldl merging_adjacency ha with hold | ⟨b, hb, _, rfl⟩
    · obtain ⟨h1, h2, h3⟩ := hdb.constrained.adjacency a hold
      exact ⟨hzones h1, hzones h2, h3⟩
    · obtain ⟨x, hx, rfl⟩ := List.mem_map.1 hb
      obtain ⟨h1, h2, h3⟩ := adjacency_check.1 (hfits.zoneAdjacency x hx)
      exact ⟨h2, h3, h1⟩
  · rcases of_mem_foldl merging_sensor hs with hold | ⟨b, hb, _, rfl⟩
    · exact (hdb.constrained.sensor s hold).imp_right hzones
    · obtain ⟨x, hx, rfl⟩ := List.mem_map.1 hb
      exact sensor_check.1 (hfits.sensors x hx)
  · rcases of_mem_foldl merging_equipment he with hold | ⟨b, hb, _, rfl⟩
    · exact (hdb.constrained.equipment e hold).imp_right hzones
    · obtain ⟨x, hx, rfl⟩ := List.mem_map.1 hb
      exact equipment_check.1 (hfits.equipment x hx)
  · rcases of_mem_foldl merging_worker hw with hold | ⟨b, hb, _, rfl⟩
    · exact (hdb.constrained.worker w hold).imp_right fun h z hz => hzones (h z hz)
    · obtain ⟨x, hx, rfl⟩ := List.mem_map.1 hb
      exact worker_check.1 (hfits.workers x hx)
  · rcases of_mem_foldl merging_permit hp with hold | ⟨args, hmem, _, rfl⟩
    · obtain ⟨h1, h2, h3⟩ := hdb.constrained.permit p hold
      exact ⟨h1, hzones h2, hworkers h3⟩
    · obtain ⟨h1, h2, h3⟩ := hfits.permits args hmem
      exact ⟨h1, h2, h3⟩
  · rcases of_mem_foldl merging_permit hp with hold | ⟨args, hmem, _, rfl⟩
    · exact hdb.permit p hold
    · exact ordered_args hordered hargs args hmem

omit [Field R] [LinearOrder R] in
theorem consistent_empty : Consistent ({} : Db R Uuid) :=
  ⟨⟨(fun _ h => by cases h), (fun _ h => by cases h), (fun _ h => by cases h), (fun _ h => by cases h),
    (fun _ h => by cases h), (fun _ h => by cases h), (fun _ h => by cases h)⟩,
    (fun _ h => by cases h), (fun _ h => by cases h)⟩

/-- **Safe to run again.** Whatever a process has done since its plant was seeded, the database is
consistent and seeding it again returns: the plant, the readings and the assessments stay as they are, no
permit is added or loses its status, and a permit that the fixture does not have stays as it is. Once more
changes nothing. -/
theorem reseed_run [FloorRing R] [IsStrictOrderedRing R] (M : Math R) (T : Text R Uuid)
    (isDate : String → Bool) (data : Fixture R) (hordered : data.Ordered T) {db db₁ : Db R Uuid}
    (hdb : Consistent db) (hempty : db.sensorReadings.rows = [])
    (h : seed M T isDate data db = (.ok (), db₁)) (actions : List (Api.Action R Uuid)) :
    let now := (Api.State.run M T ⟨.seeded db₁, {}⟩ actions).runtime.db
    Consistent now ∧ ∃ db₂, seed M T isDate data now = (.ok (), db₂) ∧ Consistent db₂ ∧
      SameStatic now db₂ ∧ db₂.sensorReadings = now.sensorReadings ∧
      db₂.riskAssessments = now.riskAssessments ∧
      db₂.permits.rows.map Permit.permitId = now.permits.rows.map Permit.permitId ∧
      (∀ p ∈ now.permits, ∃ p' ∈ db₂.permits, p'.permitId = p.permitId ∧ p'.status = p.status ∧
        (p.permitId ∉ data.permits.map (fun entry => T.resolveId entry.id) → p' = p)) ∧
      seed M T isDate data db₂ = (.ok (), db₂) := by
  intro now
  have hrun : Sound db₁ now := Api.run_sound (⟨.seeded db₁, {}⟩ : Api.State R Uuid) actions
  have hnow : Consistent now := hrun.consistent (seed_consistent hdb hempty hordered h)
  obtain ⟨permits, hargs, hfits, hagain⟩ := seed_again h hrun.static
  have hsound := sound_mergePermits (ordered_args hordered hargs) hfits
  obtain ⟨permits', hargs', -, honce⟩ := seed_again h (IsTrans.trans _ _ _ hrun hsound).static
  cases hargs.symm.trans hargs'
  rw [foldl_mergePermit] at hsound honce
  dsimp only at honce
  rw [merging_permit.foldl_again] at honce
  have hids : ∀ args ∈ permits, (now.permits.get? args.permitId).isSome ∧
      args.permitId ∈ data.permits.map fun entry => T.resolveId entry.id := by
    intro args hmem
    obtain ⟨permits', hargs', -, rfl⟩ := seed_eq_ok.1 h
    cases hargs.symm.trans hargs'
    obtain ⟨entry, hentry, hentry'⟩ := Except.mem_of_mapM_eq_ok hargs hmem
    exact ⟨hrun.permits.isSome (merging_permit.isSome_foldl hmem),
      List.mem_map.2 ⟨entry, hentry, (args_permitId hentry').symm⟩⟩
  refine ⟨hnow, _, hagain, hsound.consistent hnow, hsound.static, rfl, rfl,
    merging_permit.keys_foldl fun args hmem => (hids args hmem).1, fun p hp => ?_, honce⟩
  obtain ⟨p', hp', hid, hstatus, hsame⟩ := merged_permit hp
  refine ⟨p', hp', hid, hstatus, fun hnew => hsame fun hmem => hnew ?_⟩
  obtain ⟨args, hargs, hargs'⟩ := List.mem_map.1 hmem
  rw [← hargs']
  exact (hids args hargs).2

end

/-- A zone with a sensor and a worker, a permit and a near miss. -/
def smallPlant : Fixture ℚ where
  zones := [⟨"tank-farm", "zone_0"⟩]
  zoneAdjacency := []
  sensors := [⟨"tf-ch4", "tank-farm", "CH4", 10⟩]
  workers := [⟨"so-1", "safety_officer", some "tank-farm"⟩]
  equipment := [⟨"valve-1", "tank-farm", "valve", "isolated"⟩]
  permits := [⟨"hotwork-1", "hot_work", "tank-farm", plainText.isoformat ⟨0, 0⟩,
    plainText.isoformat ⟨60000000, 0⟩, "so-1"⟩]
  incidents := [⟨"near-miss-1", "internal_near_miss", none, "2026-06-15"⟩]

theorem reseed_run_small : ∃ db₁ db₂ : Db ℚ ℕ,
    seed Math.dyadic plainText (fun _ => true) smallPlant {} = (.ok (), db₁) ∧
    seed Math.dyadic plainText (fun _ => true) smallPlant
      (Api.State.run Math.dyadic plainText ⟨.seeded db₁, {}⟩ [.engine (.write (.updateStatus
        (plainText.resolveId "hotwork-1") "closed"))]).runtime.db = (.ok (), db₂) ∧
    ∃ p ∈ db₂.permits, p.status = .closed := by
  have hok : (seed Math.dyadic plainText (fun _ => true) smallPlant {}).1.toOption = some () := by
    decide +kernel
  have hclosed : ((Api.State.run Math.dyadic plainText
      ⟨.seeded (seed Math.dyadic plainText (fun _ => true) smallPlant {}).2, {}⟩
      [.engine (.write (.updateStatus (plainText.resolveId "hotwork-1") "closed"))]).runtime.db.permits.rows.map
        Permit.status).contains .closed = true := by
    decide +kernel
  have hseed : seed Math.dyadic plainText (fun _ => true) smallPlant {} =
      (.ok (), (seed Math.dyadic plainText (fun _ => true) smallPlant {}).2) :=
    Prod.ext (Except.toOption_eq_some.1 hok) rfl
  have hordered : smallPlant.Ordered plainText := by
    intro p hp
    rw [show p = _ from List.mem_singleton.1 hp]
    decide +kernel
  obtain ⟨-, db₂, hagain, -, -, -, -, -, hpermits, -⟩ :=
    reseed_run Math.dyadic plainText (fun _ => true) smallPlant hordered consistent_empty rfl hseed
      [.engine (.write (.updateStatus (plainText.resolveId "hotwork-1") "closed"))]
  obtain ⟨p, hp, hstatus⟩ := List.mem_map.1 (List.contains_iff_mem.1 hclosed)
  obtain ⟨p', hp', -, hsame, -⟩ := hpermits p hp
  exact ⟨_, db₂, hseed, hagain, p', hp', hsame.trans hstatus⟩

end Seed
