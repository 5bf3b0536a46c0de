import RobotConsole.Device.Basic
import RobotConsole.Log
import RobotConsole.Reading

/-!
# Telemetry batches and transport events

A batch is a snapshot of all devices of one kind: a device of that kind which the
batch does not mention is no longer there.
-/

namespace RobotConsole

abbrev ParameterReadings := Dict String Reading

abbrev SampleMap := Dict DeviceId ParameterReadings

structure TelemetryBatch where
  kind : DeviceKind
  /-- Milliseconds since the epoch; absent when the receiver is to stamp the batch. -/
  timestamp? : Option Int := none
  samples : SampleMap := []
  /-- Set when the transport reports that the link to the controller dropped. -/
  disconnect : Bool := false
  deriving Inhabited

namespace TelemetryBatch

def withDevice (batch : TelemetryBatch) (id : DeviceId) (readings : List (String × Reading)) :
    TelemetryBatch :=
  { batch with samples := Dict.insert id (Dict.ofList readings) batch.samples }

def disconnectNotice (kind : DeviceKind) (timestamp : Int) : TelemetryBatch :=
  { kind, timestamp? := some timestamp, disconnect := true }

def timestampOr (batch : TelemetryBatch) (now : Int) : Int :=
  batch.timestamp?.getD now

def deviceCount (batch : TelemetryBatch) : Nat :=
  batch.samples.length

end TelemetryBatch

inductive TransportEvent where
  | telemetry (batch : TelemetryBatch)
  | log (event : LogEvent)
  deriving Inhabited

/-- The time at which the event was recorded, if it says. -/
def TransportEvent.recordedAt? : TransportEvent -> Option Int
  | telemetry batch => batch.timestamp?
  | log event => some event.timestamp

end RobotConsole
