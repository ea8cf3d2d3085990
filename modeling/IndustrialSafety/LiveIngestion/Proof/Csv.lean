import IndustrialSafety.Db.Proof.Constraints
import IndustrialSafety.LiveIngestion.Service
import IndustrialSafety.Py.Instances
import IndustrialSafety.Services.Runtime

/-!
# The rows of a CSV file

A row that does not parse or names no sensor is recorded and skipped (`ingestRow_bad`); a good row is
stored (`ingestRow_good`). A row that parses and names a sensor, but has no unit or an inadmissible flag,
fails inside the database, with an exception that the loop does not catch (`ingestRow_inadmissible`). So
a file is ingested row by row iff it has no such row (`ingestCsvFile_isolated_iff`).
-/

namespace LiveIngestion

open Py

variable {R Uuid : Type} [DecidableEq Uuid]

/-! ## Parsing a row -/

section
variable {T : Text R Uuid} {row : CsvRow}

/-- A column that is converted, then the rest. -/
theorem column_eq_ok {α β : Type} {name message : String} {convert : String → Result α}
    {rest : α → Result β} {b : β} :
    (do let value ← row.get name
        let text ← requireText message value
        let x ← convert text
        rest x) = .ok b ↔
      ∃ x, (∃ text, row name = some (some text) ∧ convert text = .ok x) ∧ rest x = .ok b := by
  unfold CsvRow.get
  rcases row name with _ | _ | text
  · simp
  · simp [requireText]
  · simp [requireText, Except.bind_eq_ok]

/-- Parsing raises only what the loop catches. -/
def Catches {α : Type} (x : Result α) : Prop := ∀ e, x = .error e → ∃ text, caught e = some text

theorem column_catches {α β : Type} {name message : String} {convert : String → Result α}
    {rest : α → Result β} (hconvert : ∀ text, Catches (convert text)) (hrest : ∀ x, Catches (rest x)) :
    Catches (do
      let value ← row.get name
      let text ← requireText message value
      let x ← convert text
      rest x) := by
  intro e h
  unfold CsvRow.get at h
  rcases hname : row name with _ | _ | text
  · simp only [hname] at h
    cases h
    exact ⟨_, rfl⟩
  · simp only [hname] at h
    cases h
    exact ⟨_, rfl⟩
  · simp only [hname] at h
    rcases Except.bind_eq_error.1 (show (convert text >>= rest) = .error e from h) with h | ⟨x, -, h⟩
    · exact hconvert text e h
    · exact hrest x e h

omit [DecidableEq Uuid] in
theorem parseFloat_eq_ok {text : String} {x : R} :
    parseFloat T text = .ok x ↔ T.floatOfStr text = some x := by
  unfold parseFloat
  cases T.floatOfStr text <;> simp

omit [DecidableEq Uuid] in
/-- What `parseRow` reads: three texts it converts, a unit it only needs the column of, an optional
flag. -/
theorem parseRow_eq_ok {args : CsvReading R Uuid} : parseRow T row = .ok args ↔
    (∃ text, row "sensor_id" = some (some text) ∧ T.uuidOfStr text = some args.sensorId) ∧
    (∃ text, row "value" = some (some text) ∧ T.floatOfStr text = some args.value) ∧
    row "unit" = some args.unit ∧
    (∃ text, row "timestamp" = some (some text) ∧ T.fromisoformat text = some args.timestamp) ∧
    args.qualityFlag = (match row "quality_flag" with
      | some (some "") => "ok" | some (some flag) => flag | _ => "ok") := by
  have hunit : ∀ unit, row.get "unit" = .ok unit ↔ row "unit" = some unit := by
    intro unit
    unfold CsvRow.get
    cases row "unit" <;> simp
  refine ⟨fun h => ?_, fun h => ?_⟩
  · obtain ⟨sensorId, ⟨t1, hs, hsensor⟩, h⟩ := column_eq_ok.1 h
    obtain ⟨value, ⟨t2, hv, hvalue⟩, h⟩ := column_eq_ok.1 h
    obtain ⟨unit, hu, h⟩ := Except.bind_eq_ok.1 h
    obtain ⟨timestamp, ⟨t3, ht, htimestamp⟩, h⟩ := column_eq_ok.1 h
    cases h
    exact ⟨⟨t1, hs, T.uuid_eq_ok.1 hsensor⟩, ⟨t2, hv, parseFloat_eq_ok.1 hvalue⟩, (hunit _).1 hu,
      ⟨t3, ht, T.datetime_eq_ok.1 htimestamp⟩, rfl⟩
  · obtain ⟨⟨t1, hs, hsensor⟩, ⟨t2, hv, hvalue⟩, hu, ⟨t3, ht, htimestamp⟩, hflag⟩ := h
    refine column_eq_ok.2 ⟨_, ⟨t1, hs, T.uuid_eq_ok.2 hsensor⟩, column_eq_ok.2
      ⟨_, ⟨t2, hv, parseFloat_eq_ok.2 hvalue⟩, Except.bind_eq_ok.2 ⟨_, (hunit _).2 hu,
        column_eq_ok.2 ⟨_, ⟨t3, ht, T.datetime_eq_ok.2 htimestamp⟩, ?_⟩⟩⟩⟩
    exact congrArg (fun flag => Except.ok { args with qualityFlag := flag }) hflag.symm

omit [DecidableEq Uuid] in
theorem parseRow_catches : Catches (parseRow T row) := by
  refine column_catches (fun text e h => ?_) fun sensorId => column_catches (fun text e h => ?_)
    fun value e h => ?_
  · unfold Text.uuid at h
    split at h <;> cases h
    exact ⟨_, rfl⟩
  · unfold parseFloat at h
    split at h <;> cases h
    exact ⟨_, rfl⟩
  · rcases Except.bind_eq_error.1 h with h | ⟨unit, -, h⟩
    · unfold CsvRow.get at h
      split at h <;> cases h
      exact ⟨_, rfl⟩
    · refine column_catches (fun text e h => ?_) (fun timestamp e h => by cases h) e h
      unfold Text.datetime at h
      split at h <;> cases h
      exact ⟨_, rfl⟩

end

/-! ## One row -/

/-- The reading of a row that names a known sensor and has a value, a timestamp, a unit and an absent or
admissible flag. -/
def goodReading (T : Text R Uuid) (db : Db R Uuid) (row : CsvRow) (readingId : Uuid) :
    Option (SensorReading R Uuid) := do
  let args ← (parseRow T row).toOption
  let sensor ← SensorRepository.get db args.sensorId
  let unit ← args.unit
  if args.qualityFlag ∈ qualityFlags then
    some { readingId, sensorId := sensor.sensorId, zoneId := sensor.zoneId,
           gasType := sensor.gasType, value := args.value, unit,
           timestamp := args.timestamp.instant, qualityFlag := args.qualityFlag }
  else none

/-- A row that parses and names a known sensor has a unit and an absent or admissible flag. -/
def Admissible (T : Text R Uuid) (db : Db R Uuid) (row : CsvRow) : Prop :=
  ∀ args, parseRow T row = .ok args → ∀ sensor, SensorRepository.get db args.sensorId = some sensor →
    args.unit.isSome ∧ args.qualityFlag ∈ qualityFlags

section
variable {T : Text R Uuid} {db : Db R Uuid} {row : CsvRow} {readingId : Uuid} {rowIndex : Nat}
  {acc : CsvIngestResult}

/-- The args of the reading that `ingest_reading` creates. -/
def CsvReading.toArgs (args : CsvReading R Uuid) (sensor : Sensor R Uuid) (readingId : Uuid) :
    SensorReadingRepository.Args R Uuid where
  readingId := readingId
  sensorId := sensor.sensorId
  zoneId := sensor.zoneId
  gasType := sensor.gasType
  value := args.value
  unit := args.unit
  timestamp := args.timestamp.instant
  qualityFlag := some args.qualityFlag

theorem ingestReading_unknown {sensorId : Uuid} {value : R} {unit : Option String}
    {timestamp : DateTime} {flag : String} (h : SensorRepository.get db sensorId = none) :
    ∃ msg, ingestReading T readingId sensorId value unit timestamp flag db =
      .error (.unknownSensorError msg) := by
  rw [ingestReading, Transaction.get_bind, h]
  exact ⟨_, rfl⟩

theorem ingestReading_known {args : CsvReading R Uuid} {sensor : Sensor R Uuid}
    (h : SensorRepository.get db args.sensorId = some sensor) :
    ingestReading T readingId args.sensorId args.value args.unit args.timestamp args.qualityFlag db =
      SensorReadingRepository.createWithDefaultId (args.toArgs sensor readingId) db := by
  rw [ingestReading, Transaction.get_bind, h]
  rfl

/-- The body of the `try`, after a row that parses. -/
theorem tryBody_parsed {args : CsvReading R Uuid} (hparse : parseRow T row = .ok args) :
    (do
      let args ← parseRow T row
      let _ ← ingestReading T readingId args.sensorId args.value args.unit args.timestamp
        args.qualityFlag
      pure { acc with rowsProcessed := acc.rowsProcessed + 1 } : Session R Uuid CsvIngestResult) db =
    (ingestReading T readingId args.sensorId args.value args.unit args.timestamp args.qualityFlag
      db).map fun p => ({ acc with rowsProcessed := acc.rowsProcessed + 1 }, p.2) := by
  rw [Transaction.bind_apply, hparse]
  refine (Transaction.bind_apply _ _ db).trans ?_
  rcases ingestReading T readingId args.sensorId args.value args.unit args.timestamp
    args.qualityFlag db with e | ⟨r, db'⟩ <;> rfl

theorem ingestRow_stored {args : CsvReading R Uuid} {r : SensorReading R Uuid} {db' : Db R Uuid}
    (hparse : parseRow T row = .ok args) (h : ingestReading T readingId args.sensorId args.value
      args.unit args.timestamp args.qualityFlag db = .ok (r, db')) :
    ingestRow T rowIndex row readingId acc db =
      .ok ({ acc with rowsProcessed := acc.rowsProcessed + 1 }, db') := by
  rw [ingestRow, Transaction.tryCatch_apply, tryBody_parsed hparse, h]
  rfl

/-- A row whose parsing or ingestion raises what the loop catches is recorded, and writes nothing. -/
theorem ingestRow_skipped {e : Exc} {text : String} (hcaught : caught e = some text)
    (h : parseRow T row = .error e ∨ ∃ args, parseRow T row = .ok args ∧ ingestReading T readingId
      args.sensorId args.value args.unit args.timestamp args.qualityFlag db = .error e) :
    ingestRow T rowIndex row readingId acc db = .ok ({ acc with
      rowsFailed := acc.rowsFailed + 1
      errors := acc.errors ++ [s!"row {rowIndex}: {text}"] }, db) := by
  rw [ingestRow, Transaction.tryCatch_apply]
  rcases h with hparse | ⟨args, hparse, h⟩
  · have hlift : (liftM (.error e : Result (CsvReading R Uuid)) : Session R Uuid _) db = .error e := rfl
    rw [Transaction.bind_apply, hparse, hlift]
    dsimp only
    rw [hcaught]
    rfl
  · rw [tryBody_parsed hparse, h]
    dsimp only [Except.map]
    rw [hcaught]
    rfl

theorem ingestRow_raised {args : CsvReading R Uuid} {e : Exc} (hparse : parseRow T row = .ok args)
    (h : ingestReading T readingId args.sensorId args.value args.unit args.timestamp
      args.qualityFlag db = .error e) (hcaught : caught e = none) :
    ingestRow T rowIndex row readingId acc db = .error e := by
  rw [ingestRow, Transaction.tryCatch_apply, tryBody_parsed hparse, h]
  dsimp only [Except.map]
  rw [hcaught]
  rfl

/-- No row has the id that `uuid4` draws. -/
def Fresh (db : Db R Uuid) (readingId : Uuid) : Prop :=
  ∀ r ∈ db.sensorReadings, r.readingId ≠ readingId

/-- `db` with readings stored. -/
def stored (db : Db R Uuid) (readings : List (SensorReading R Uuid)) : Db R Uuid :=
  { db with sensorReadings := readings.foldl Table.upsert db.sensorReadings }

theorem goodReading_eq_some {r : SensorReading R Uuid} : goodReading T db row readingId = some r ↔
    ∃ args sensor unit, parseRow T row = .ok args ∧
      SensorRepository.get db args.sensorId = some sensor ∧ args.unit = some unit ∧
      args.qualityFlag ∈ qualityFlags ∧ r = (args.toArgs sensor readingId).row none unit := by
  simp only [goodReading, Option.bind_eq_bind, Option.bind_eq_some_iff, Except.toOption_eq_some]
  refine ⟨fun h => ?_, fun h => ?_⟩
  · obtain ⟨args, hargs, sensor, hsensor, unit, hunit, h⟩ := h
    split at h
    · rename_i hflag
      cases h
      exact ⟨args, sensor, unit, hargs, hsensor, hunit, hflag, rfl⟩
    · cases h
  · obtain ⟨args, sensor, unit, hargs, hsensor, hunit, hflag, rfl⟩ := h
    refine ⟨args, hargs, sensor, hsensor, unit, hunit, ?_⟩
    rw [if_pos hflag]
    rfl

variable (hdb : ∀ s ∈ db.sensors, s.gasType ∈ gasTypes ∧ (db.zones.get? s.zoneId).isSome)
include hdb

/-- A reading of a known sensor satisfies the constraints iff its flag does. -/
theorem toArgs_constrained_iff {args : CsvReading R Uuid} {sensor : Sensor R Uuid} {unit : String}
    (h : SensorRepository.get db args.sensorId = some sensor) :
    ((args.toArgs sensor readingId).row none unit).Constrained db ↔
      args.qualityFlag ∈ qualityFlags := by
  obtain ⟨hmem, hid⟩ := Table.get?_eq_some.1 h
  refine ⟨fun hc => hc.qualityFlag, fun hflag => ⟨(hdb sensor hmem).1, hflag, ?_, (hdb sensor hmem).2⟩⟩
  show (db.sensors.get? sensor.sensorId).isSome = true
  rw [hid]
  exact Option.isSome_iff_exists.2 ⟨sensor, h⟩

theorem ingestRow_good (rowIndex : Nat) (acc : CsvIngestResult) (hfresh : Fresh db readingId)
    {r : SensorReading R Uuid} (h : goodReading T db row readingId = some r) : ingestRow T rowIndex row readingId acc db =
      .ok ({ acc with rowsProcessed := acc.rowsProcessed + 1 }, stored db [r]) := by
  obtain ⟨args, sensor, unit, hargs, hsensor, hunit, hflag, rfl⟩ := goodReading_eq_some.1 h
  refine ingestRow_stored hargs (r := (args.toArgs sensor readingId).row none unit) ?_
  rw [ingestReading_known hsensor]
  refine (SensorReadingRepository.createWithDefaultId_eq_ok ?_).2
    ⟨⟨unit, hunit, rfl, (toArgs_constrained_iff hdb hsensor).2 hflag⟩, rfl⟩
  refine Table.get?_eq_none.2 fun r hr hkey => ?_
  exact hfresh r hr (Prod.mk.inj hkey).1

omit hdb in
/-- A row that should not be stored is recorded, unless it fails inside the database. -/
theorem ingestRow_bad (rowIndex : Nat) (acc : CsvIngestResult) (hadmissible : Admissible T db row)
    (h : goodReading T db row readingId = none) : ∃ text, ingestRow T rowIndex row readingId acc db =
      .ok ({ acc with rowsFailed := acc.rowsFailed + 1, errors := acc.errors ++ [text] }, db) := by
  cases hparse : parseRow T row with
  | error e =>
    obtain ⟨text, hcaught⟩ := parseRow_catches e hparse
    exact ⟨_, ingestRow_skipped hcaught (.inl hparse)⟩
  | ok args =>
    cases hsensor : SensorRepository.get db args.sensorId with
    | none =>
      have hunknown : ∃ msg, ingestReading T readingId args.sensorId args.value args.unit
          args.timestamp args.qualityFlag db = .error (.unknownSensorError msg) :=
        ingestReading_unknown hsensor
      obtain ⟨msg, hunknown⟩ := hunknown
      exact ⟨_, ingestRow_skipped rfl (.inr ⟨args, hparse, hunknown⟩)⟩
    | some sensor =>
      obtain ⟨hunit, hflag⟩ := hadmissible args hparse sensor hsensor
      obtain ⟨unit, hunit⟩ := Option.isSome_iff_exists.1 hunit
      have hgood : goodReading T db row readingId = some _ :=
        goodReading_eq_some.2 ⟨args, sensor, unit, hparse, hsensor, hunit, hflag, rfl⟩
      rw [h] at hgood
      cases hgood

/-- What the database rejects, the loop does not catch. -/
theorem ingestRow_inadmissible (rowIndex : Nat) (acc : CsvIngestResult)
    (hfresh : Fresh db readingId) (h : ¬Admissible T db row) :
    ∃ e, ingestRow T rowIndex row readingId acc db = .error e := by
  unfold Admissible at h
  push Not at h
  obtain ⟨args, hparse, sensor, hsensor, h⟩ := h
  have hnew : db.sensorReadings.get? (readingId, args.timestamp.instant) = none :=
    Table.get?_eq_none.2 fun r hr hkey => hfresh r hr (Prod.mk.inj hkey).1
  have hcreate : ∃ constraint, ingestReading T readingId args.sensorId args.value args.unit
      args.timestamp args.qualityFlag db = .error (.integrityError constraint) := by
    rw [ingestReading_known hsensor]
    cases hc : SensorReadingRepository.createWithDefaultId (args.toArgs sensor readingId) db with
    | error e =>
      obtain ⟨constraint, rfl⟩ := SensorReadingRepository.createWithDefaultId_error hc
      exact ⟨constraint, rfl⟩
    | ok p =>
      obtain ⟨⟨unit, hunit, hrow, hc⟩, -⟩ :=
        (SensorReadingRepository.createWithDefaultId_eq_ok hnew).1 hc
      rw [hrow] at hc
      refine absurd ((toArgs_constrained_iff hdb hsensor).1 hc) (h ?_)
      exact Option.isSome_iff_exists.2 ⟨unit, hunit⟩
  obtain ⟨constraint, hcreate⟩ := hcreate
  exact ⟨_, ingestRow_raised hparse hcreate rfl⟩

end

/-! ## A file -/

section
variable {T : Text R Uuid} {db : Db R Uuid} {rows : List (CsvRow × Uuid)}

/-- The ids that `uuid4` draws for the rows are distinct, and no row has them. -/
structure FreshIds (db : Db R Uuid) (rows : List (CsvRow × Uuid)) : Prop where
  fresh : ∀ p ∈ rows, Fresh db p.2
  nodup : (rows.map Prod.snd).Nodup

omit [DecidableEq Uuid] in
theorem FreshIds.tail {p : CsvRow × Uuid} (h : FreshIds db (p :: rows)) : FreshIds db rows :=
  ⟨fun q hq => h.fresh q (by simp [hq]), (List.nodup_cons.1 h.nodup).2⟩

theorem FreshIds.stored {p : CsvRow × Uuid} {r : SensorReading R Uuid}
    (h : FreshIds db (p :: rows)) (hr : goodReading T db p.1 p.2 = some r) :
    FreshIds (stored db [r]) rows := by
  refine ⟨fun q hq x hx hid => ?_, h.tail.nodup⟩
  obtain ⟨args, sensor, unit, -, -, -, -, hrow⟩ := goodReading_eq_some.1 hr
  rcases Table.mem_upsert.1 hx with rfl | ⟨hx, -⟩
  · have hp : p.2 = q.2 := by
      rw [← hid, hrow]
      rfl
    refine (List.nodup_cons.1 h.nodup).1 ?_
    rw [hp]
    exact List.mem_map_of_mem hq
  · exact h.tail.fresh q hq x hx hid

/-- The readings of the good rows. -/
def goodReadings (T : Text R Uuid) (db : Db R Uuid) (rows : List (CsvRow × Uuid)) :
    List (SensorReading R Uuid) :=
  rows.filterMap fun p => goodReading T db p.1 p.2

theorem goodReadings_cons (p : CsvRow × Uuid) : goodReadings T db (p :: rows) =
    (goodReading T db p.1 p.2).toList ++ goodReadings T db rows := by
  rw [goodReadings, List.filterMap_cons, goodReadings]
  cases goodReading T db p.1 p.2 <;> rfl

/-- What the loop counts over `rows` rows, `good` of them good. -/
structure Counted (acc result : CsvIngestResult) (rows good : Nat) : Prop where
  processed : result.rowsProcessed = acc.rowsProcessed + good
  failed : result.rowsFailed + good = acc.rowsFailed + rows
  errors : result.errors.length + good = acc.errors.length + rows

theorem ingestRows_cons {row : CsvRow} {readingId : Uuid} {rowIndex : Nat} {acc acc' : CsvIngestResult}
    {db' : Db R Uuid} (h : ingestRow T rowIndex row readingId acc db = .ok (acc', db')) :
    ingestRows T rowIndex ((row, readingId) :: rows) acc db =
      ingestRows T (rowIndex + 1) rows acc' db' := by
  show (ingestRow T rowIndex row readingId acc >>= _) db = _
  rw [Transaction.bind_apply, h]

theorem ingestRows_ok (hdb : ∀ s ∈ db.sensors, s.gasType ∈ gasTypes ∧
      (db.zones.get? s.zoneId).isSome) (hids : FreshIds db rows)
    (hrows : ∀ p ∈ rows, Admissible T db p.1) (rowIndex : Nat) (acc : CsvIngestResult) :
    ∃ result, ingestRows T rowIndex rows acc db =
        .ok (result, stored db (goodReadings T db rows)) ∧
      Counted acc result rows.length (goodReadings T db rows).length := by
  induction rows generalizing db rowIndex acc with
  | nil => exact ⟨acc, rfl, rfl, rfl, rfl⟩
  | cons p rows ih =>
    obtain ⟨row, readingId⟩ := p
    have htail : ∀ q ∈ rows, Admissible T db q.1 := fun q hq => hrows q (by simp [hq])
    cases hgood : goodReading T db row readingId with
    | some r =>
      have hrow := ingestRow_good hdb rowIndex acc (hids.fresh _ (.head _)) hgood
      obtain ⟨result, hresult, hcount⟩ := ih (show ∀ s ∈ (stored db [r]).sensors, _ from hdb)
        (hids.stored hgood) htail (rowIndex + 1) { acc with rowsProcessed := acc.rowsProcessed + 1 }
      refine ⟨result, ?_, ?_⟩
      · rw [ingestRows_cons hrow, hresult, goodReadings_cons, hgood]
        rfl
      · rw [goodReadings_cons, hgood]
        obtain ⟨h1, h2, h3⟩ := hcount
        have hgoods : goodReadings T (stored db [r]) rows = goodReadings T db rows := rfl
        rw [hgoods] at h1 h2 h3
        refine ⟨?_, ?_, ?_⟩ <;>
          simp only [List.length_cons, List.length_append, Option.toList_some, List.length_nil] at * <;>
          omega
    | none =>
      obtain ⟨text, hrow⟩ := ingestRow_bad rowIndex acc (hrows _ (.head _)) hgood
      obtain ⟨result, hresult, hcount⟩ := ih hdb hids.tail htail (rowIndex + 1) { acc with
        rowsFailed := acc.rowsFailed + 1
        errors := acc.errors ++ [text] }
      refine ⟨result, ?_, ?_⟩
      · rw [ingestRows_cons hrow, hresult, goodReadings_cons, hgood]
        rfl
      · rw [goodReadings_cons, hgood]
        obtain ⟨h1, h2, h3⟩ := hcount
        refine ⟨?_, ?_, ?_⟩ <;>
          simp only [List.length_cons, List.length_append, Option.toList_none, List.length_nil] at * <;>
          omega

/-- One inadmissible row ends the file, and the transaction is rolled back. -/
theorem ingestRows_raises (hdb : ∀ s ∈ db.sensors, s.gasType ∈ gasTypes ∧
      (db.zones.get? s.zoneId).isSome) (hids : FreshIds db rows)
    (hrows : ∃ p ∈ rows, ¬Admissible T db p.1) (rowIndex : Nat) (acc : CsvIngestResult) :
    ∃ e, ingestRows T rowIndex rows acc db = .error e := by
  induction rows generalizing db rowIndex acc with
  | nil =>
    obtain ⟨p, hp, -⟩ := hrows
    cases hp
  | cons p rows ih =>
    obtain ⟨row, readingId⟩ := p
    by_cases hrow : Admissible T db row
    · have htail : ∃ q ∈ rows, ¬Admissible T db q.1 := by
        obtain ⟨q, hq, hbad⟩ := hrows
        rcases List.mem_cons.1 hq with rfl | hq
        · exact absurd hrow hbad
        · exact ⟨q, hq, hbad⟩
      cases hgood : goodReading T db row readingId with
      | some r =>
        rw [ingestRows_cons (ingestRow_good hdb rowIndex acc (hids.fresh _ (.head _)) hgood)]
        exact ih (show ∀ s ∈ (stored db [r]).sensors, _ from hdb) (hids.stored hgood) htail _ _
      | none =>
        obtain ⟨text, hskipped⟩ := ingestRow_bad rowIndex acc hrow hgood
        rw [ingestRows_cons hskipped]
        exact ih hdb hids.tail htail _ _
    · obtain ⟨e, he⟩ := ingestRow_inadmissible hdb rowIndex acc (hids.fresh _ (.head _)) hrow
      refine ⟨e, ?_⟩
      show (ingestRow T rowIndex row readingId acc >>= _) db = _
      rw [Transaction.bind_apply, he]

/-- The file is ingested row by row: every data row is counted, a failed one with an error, and exactly
the good rows are stored. -/
def Isolated (T : Text R Uuid) (db : Db R Uuid) (rows : List (CsvRow × Uuid)) : Prop :=
  ∃ result db', ingestCsvFile T rows db = .ok (result, db') ∧
    result.rowsProcessed + result.rowsFailed = rows.length ∧
    result.errors.length = result.rowsFailed ∧
    (∀ r, r ∈ db'.sensorReadings ↔
      r ∈ db.sensorReadings ∨ ∃ p ∈ rows, goodReading T db p.1 p.2 = some r) ∧
    db' = { db with sensorReadings := db'.sensorReadings }

theorem goodReading_readingId {row : CsvRow} {readingId : Uuid} {r : SensorReading R Uuid}
    (h : goodReading T db row readingId = some r) : r.readingId = readingId := by
  obtain ⟨args, sensor, unit, -, -, -, -, rfl⟩ := goodReading_eq_some.1 h
  rfl

theorem goodReadings_ids :
    ((goodReadings T db rows).map SensorReading.readingId).Sublist (rows.map Prod.snd) := by
  induction rows with
  | nil => exact .slnil
  | cons p rows ih =>
    rw [goodReadings_cons, List.map_append, List.map_cons]
    cases hgood : goodReading T db p.1 p.2 with
    | none => exact ih.cons _
    | some r =>
      show (r.readingId :: _).Sublist _
      rw [goodReading_readingId hgood]
      exact ih.cons_cons _

/-- Fresh ids merge onto nothing. -/
theorem mem_stored (hids : FreshIds db rows) (r : SensorReading R Uuid) :
    r ∈ (stored db (goodReadings T db rows)).sensorReadings ↔
      r ∈ db.sensorReadings ∨ ∃ p ∈ rows, goodReading T db p.1 p.2 = some r := by
  have hnodup : ((goodReadings T db rows).map fun x => (x.readingId, x.timestamp)).Nodup :=
    List.Nodup.of_map Prod.fst (by rw [List.map_map]; exact goodReadings_ids.nodup hids.nodup)
  rw [stored, Table.mem_foldl_upsert hnodup, goodReadings, List.mem_filterMap, or_comm]
  refine or_congr_left (and_iff_left_of_imp fun hr hkey => ?_)
  obtain ⟨x, hx, hxr⟩ := List.mem_map.1 hkey
  obtain ⟨p, hp, hgood⟩ := List.mem_filterMap.1 hx
  exact hids.fresh p hp r hr ((Prod.mk.inj hxr).1.symm.trans (goodReading_readingId hgood))

/-- **A file is ingested row by row iff every row that parses and names a known sensor has a unit and an
absent or admissible flag.** -/
theorem ingestCsvFile_isolated_iff (T : Text R Uuid) {db : Db R Uuid} (hdb : Constrained db)
    {rows : List (CsvRow × Uuid)} (hids : FreshIds db rows) :
    Isolated T db rows ↔ ∀ p ∈ rows, Admissible T db p.1 := by
  constructor
  · intro ⟨result, db', h, _⟩
    by_contra hrows
    push Not at hrows
    obtain ⟨e, he⟩ := ingestRows_raises hdb.sensor hids hrows 2 ⟨0, 0, []⟩
    cases h.symm.trans he
  · intro hrows
    obtain ⟨result, hresult, hcount⟩ := ingestRows_ok hdb.sensor hids hrows 2 ⟨0, 0, []⟩
    obtain ⟨h1, h2, h3⟩ := hcount
    refine ⟨result, _, hresult, ?_, ?_, mem_stored hids, rfl⟩
    · simp only at *
      omega
    · simp only [List.length_nil] at *
      omega

end

/-- A row of a file with all five columns. -/
def csvRow (sensorId value unit timestamp qualityFlag : Option String) : CsvRow
  | "sensor_id" => some sensorId
  | "value" => some value
  | "unit" => some unit
  | "timestamp" => some timestamp
  | "quality_flag" => some qualityFlag
  | _ => none

section
variable (sensorId value unit timestamp qualityFlag : Option String)

theorem csvRow_unit : csvRow sensorId value unit timestamp qualityFlag "unit" = some unit := rfl

theorem csvRow_timestamp :
    csvRow sensorId value unit timestamp qualityFlag "timestamp" = some timestamp := rfl

end

/-- A good row, one of an unknown sensor, and one that ends after its value. -/
def mixedRows : List (CsvRow × ℕ) :=
  [(csvRow (some "7") (some "5") (some "ppm") (some "0+0") (some ""), 100),
    (csvRow (some "99") (some "5") (some "ppm") (some "0+0") none, 101),
    (csvRow (some "7") (some "5") none none none, 102)]

/-- A good row, and one with the flag `suspect`. -/
def suspectRows : List (CsvRow × ℕ) :=
  [(csvRow (some "7") (some "5") (some "ppm") (some "0+0") (some "ok"), 100),
    (csvRow (some "7") (some "6") (some "ppm") (some "60+0") (some "suspect"), 101)]

theorem plant_constrained : Constrained Runtime.plant :=
  ⟨by decide +kernel, by decide +kernel, by decide +kernel, by decide +kernel,
    (fun _ h => nomatch h), (fun _ h => nomatch h), (fun _ h => nomatch h)⟩

theorem ingestCsvFile_isolated_mixed : Isolated plainText Runtime.plant mixedRows := by
  have hids : FreshIds Runtime.plant mixedRows := ⟨(fun _ _ _ h => nomatch h), by decide +kernel⟩
  refine (ingestCsvFile_isolated_iff plainText plant_constrained hids).2 ?_
  intro p hp args hargs sensor _
  obtain ⟨-, -, hunit, ⟨text, htime, -⟩, hflag⟩ := parseRow_eq_ok.1 hargs
  simp only [mixedRows, List.mem_cons, List.not_mem_nil, or_false] at hp
  rcases hp with rfl | rfl | rfl <;> dsimp only at hunit htime hflag
  · rw [csvRow_unit, Option.some.injEq] at hunit
    rw [hflag, ← hunit]
    decide +kernel
  · rw [csvRow_unit, Option.some.injEq] at hunit
    rw [hflag, ← hunit]
    decide +kernel
  · rw [csvRow_timestamp] at htime
    cases htime

/-- The inadmissible flag costs the good row. -/
theorem suspect_flag_aborts : Constrained Runtime.plant ∧ FreshIds Runtime.plant suspectRows ∧
    (∃ p ∈ suspectRows, (goodReading plainText Runtime.plant p.1 p.2).isSome) ∧
    ∀ p, ingestCsvFile plainText suspectRows Runtime.plant ≠ .ok p := by
  have hraises : (ingestCsvFile plainText suspectRows Runtime.plant).toOption.isSome = false := by
    decide +kernel
  have hids : FreshIds Runtime.plant suspectRows := ⟨(fun _ _ _ h => nomatch h), by decide +kernel⟩
  refine ⟨plant_constrained, hids, by decide +kernel, fun p hp => ?_⟩
  rw [hp] at hraises
  cases hraises

end LiveIngestion
