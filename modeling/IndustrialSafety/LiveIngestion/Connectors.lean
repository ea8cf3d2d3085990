import IndustrialSafety.LiveIngestion.Service

/-!
# Mocked connectors

`src/live_ingestion/connectors.py`: one simulated message, a fixed fraction of the sensor's alarm
threshold. `OpcUaConnectorMock` inherits `poll`.
-/

namespace LiveIngestion

open Py

variable {R Uuid : Type} [Field R] [DecidableEq Uuid]

structure MockConnectorConfig (R Uuid : Type) [Field R] where
  sensorId : Uuid
  valueFractionOfThreshold : R := 3 / 10

/-- `MqttConnectorMock.poll`. -/
def poll (T : Text R Uuid) (config : MockConnectorConfig R Uuid) (readingId : Uuid)
    (timestamp : DateTime) : Session R Uuid (SensorReading R Uuid) := do
  let db ← get
  match SensorRepository.get db config.sensorId with
  | none => throw (.unknownSensorError
      s!"No sensor with id \x27{T.uuidStr config.sensorId}\x27 exists.")
  | some sensor =>
    ingestReading T readingId sensor.sensorId (sensor.alarmThreshold * config.valueFractionOfThreshold)
      (some "ppm") timestamp "ok"

end LiveIngestion
