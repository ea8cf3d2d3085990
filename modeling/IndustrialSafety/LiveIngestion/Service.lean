import IndustrialSafety.Db.Repositories

/-!
# Live ingestion

`src/live_ingestion/service.py` and `csv_watcher.py`: one reading, and the rows of a CSV file. The
`reading_id` is the model's default, drawn by `uuid4` (a parameter).
-/

namespace LiveIngestion

open Py

variable {R Uuid : Type} [DecidableEq Uuid]

def ingestReading (T : Text R Uuid) (readingId sensorId : Uuid) (value : R) (unit : Option String)
    (timestamp : DateTime) (qualityFlag : String) : Session R Uuid (SensorReading R Uuid) := do
  let db ← get
  match SensorRepository.get db sensorId with
  | none => throw (.unknownSensorError s!"No sensor with id \x27{T.uuidStr sensorId}\x27 exists.")
  | some sensor => SensorReadingRepository.createWithDefaultId {
      readingId
      sensorId := sensor.sensorId
      zoneId := sensor.zoneId
      gasType := sensor.gasType
      value
      unit
      timestamp := timestamp.instant
      qualityFlag := some qualityFlag }

/-- A row of `csv.DictReader`: a column is missing from the header (`none`) or from the row
(`some none`). -/
abbrev CsvRow := String → Option (Option String)

structure CsvIngestResult where
  rowsProcessed : Nat
  rowsFailed : Nat
  errors : List String

/-- `row[name]`. -/
def CsvRow.get (row : CsvRow) (name : String) : Result (Option String) :=
  match row name with
  | some x => pure x
  | none => throw (.keyError name)

/-- The text a conversion is called with; at `none` the conversion raises a `TypeError` of its own. -/
def requireText (message : String) (value : Option String) : Result String :=
  match value with
  | some s => pure s
  | none => throw (.typeError message)

/-- `float(s)`. -/
def parseFloat (T : Text R Uuid) (s : String) : Result R :=
  match T.floatOfStr s with
  | some x => pure x
  | none => throw (.valueError s!"could not convert string to float: {strRepr s}")

/-- What a row gives `ingest_reading`. -/
structure CsvReading (R Uuid : Type) where
  sensorId : Uuid
  value : R
  unit : Option String
  timestamp : DateTime
  qualityFlag : String

/-- The arguments of the call, in the order of their evaluation. -/
def parseRow (T : Text R Uuid) (row : CsvRow) : Result (CsvReading R Uuid) := do
  let sensorId ← row.get "sensor_id"
  let sensorId ← requireText
    "one of the hex, bytes, bytes_le, fields, or int arguments must be given" sensorId
  let sensorId ← T.uuid sensorId
  let value ← row.get "value"
  let value ← requireText
    "float() argument must be a string or a real number, not 'NoneType'" value
  let value ← parseFloat T value
  let unit ← row.get "unit"
  let timestamp ← row.get "timestamp"
  let timestamp ← requireText "fromisoformat: argument must be str" timestamp
  let timestamp ← T.datetime timestamp
  let qualityFlag := match row "quality_flag" with
    | some (some "") => "ok"
    | some (some flag) => flag
    | _ => "ok"
  pure { sensorId, value, unit, timestamp, qualityFlag }

/-- `str(exc)` of a caught exception; an exception that `except` does not name is raised again. -/
def caught : Exc → Option String
  | .keyError key => some (strRepr key)
  | .valueError msg => some msg
  | .scenarioValidationError msg => some msg
  | .typeError msg => some msg
  | .unknownSensorError msg => some msg
  | _ => none

def ingestRow (T : Text R Uuid) (rowIndex : Nat) (row : CsvRow) (readingId : Uuid)
    (acc : CsvIngestResult) : Session R Uuid CsvIngestResult :=
  tryCatch
    (do
      let args ← parseRow T row
      let _ ← ingestReading T readingId args.sensorId args.value args.unit args.timestamp
        args.qualityFlag
      pure { acc with rowsProcessed := acc.rowsProcessed + 1 })
    fun exc => match caught exc with
      | some text => pure { acc with
          rowsFailed := acc.rowsFailed + 1
          errors := acc.errors ++ [s!"row {rowIndex}: {text}"] }
      | none => throw exc

/-- The rows of a file with the ids `uuid4` draws; row 1 is the header. -/
def ingestRows (T : Text R Uuid) : Nat → List (CsvRow × Uuid) → CsvIngestResult →
    Session R Uuid CsvIngestResult
  | _, [], acc => pure acc
  | rowIndex, (row, readingId) :: rows, acc => do
    let acc ← ingestRow T rowIndex row readingId acc
    ingestRows T (rowIndex + 1) rows acc

def ingestCsvFile (T : Text R Uuid) (rows : List (CsvRow × Uuid)) : Session R Uuid CsvIngestResult :=
  ingestRows T 2 rows ⟨0, 0, []⟩

end LiveIngestion
