import RobotConsole.Telemetry
import RobotConsole.Wire.Device
import RobotConsole.Wire.Log

/-!
# Telemetry and transport events on the wire

An event is written as its type and its data. The data may come first: it is
then set aside as a whole, and decoded once the type is known.
-/

namespace RobotConsole

open Json (Draft Ending)

namespace TelemetryBatch

def samplesToJson (samples : SampleMap) : Json :=
  .object
    (samples.map fun (id, readings) => (id.text, .object (Reading.entriesToJson readings)))

def toJson (batch : TelemetryBatch) : Json :=
  let timestamp :=
    match batch.timestamp? with
    | some t => [("timestamp_ms", Json.integer t)]
    | none => []
  .object
    (("kind", batch.kind.toJson) :: timestamp ++
      [("samples", samplesToJson batch.samples), ("disconnect", .bool batch.disconnect)])

end TelemetryBatch

namespace TransportEvent

def toJson : TransportEvent -> Json
  | telemetry batch => .object [("type", .string "telemetry"), ("data", batch.toJson)]
  | log event => .object [("type", .string "log"), ("data", event.toJson)]

end TransportEvent

namespace Wire

/-! ## Batches -/

def decodeReadings : Draft -> Decoded ParameterReadings
  | .object members ending =>
      foldMembers (fun readings name value => do
        .ok (Dict.insert name (← decodeReading value) readings)) [] members ending
  | _ => .error .malformed

/-- Names that spell the same number are one device, with the readings given last. -/
def decodeSamples : Draft -> Decoded SampleMap
  | .object members ending =>
      foldMembers (fun samples name value => do
        let id ← deviceOfText name
        .ok (Dict.insert id (← decodeReadings value) samples)) [] members ending
  | _ => .error .malformed

structure BatchFields where
  kind? : Option DeviceKind := none
  timestamp? : Option (Option Int) := none
  samples? : Option SampleMap := none
  disconnect? : Option Bool := none

def BatchFields.step (setAside : Bool) (fields : BatchFields) (name : String) (value : Draft) :
    Decoded BatchFields := do
  if name = "kind" then
    .ok { fields with kind? := ← setOnce name fields.kind? (decodeKind setAside) value }
  else if name = "timestamp_ms" then
    .ok { fields with
      timestamp? := ← setOnce name fields.timestamp? (decodeOption decodeInt64) value }
  else if name = "samples" then
    .ok { fields with samples? := ← setOnce name fields.samples? decodeSamples value }
  else if name = "disconnect" then
    .ok { fields with disconnect? := ← setOnce name fields.disconnect? decodeBool value }
  else do
    skip value
    .ok fields

def BatchFields.finish (fields : BatchFields) : Decoded TelemetryBatch :=
  match fields.kind? with
  | none => .error (.missingField "kind")
  | some kind =>
      .ok
        { kind
          timestamp? := fields.timestamp?.getD none
          samples := fields.samples?.getD []
          disconnect := fields.disconnect?.getD false }

def decodeBatch (setAside : Bool := false) (d : Draft) : Decoded TelemetryBatch := do
  let (members, ending) ←
    recordMembers ["kind", "timestamp_ms", "samples", "disconnect"] 1 d
  (← foldMembers (BatchFields.step setAside) {} members ending).finish

/-! ## Events -/

inductive EventType where
  | telemetry
  | log
  deriving DecidableEq, Repr

def EventType.table : List (String × EventType) :=
  [("telemetry", telemetry), ("log", log)]

def decodeEventType : Draft -> Decoded EventType :=
  decodeVariant EventType.table false

def decodeData (setAside : Bool) (type : EventType) (data : Draft) : Decoded TransportEvent :=
  match type with
  | .telemetry => (decodeBatch setAside data).map .telemetry
  | .log => (decodeLog setAside data).map .log

inductive EventFields where
  | nothing
  | typeKnown (type : EventType)
  | dataSetAside (data : Json)
  | whole (event : TransportEvent)

def EventFields.step (fields : EventFields) (name : String) (value : Draft) :
    Decoded EventFields :=
  if name = "type" then
    match fields with
    | nothing => do .ok (typeKnown (← decodeEventType value))
    | dataSetAside data => do
        let type ← decodeEventType value
        .ok (whole (← decodeData true type (.ofJson data)))
    | _ => .error (.duplicateField name)
  else if name = "data" then
    match fields with
    | nothing => do .ok (dataSetAside (← decodeValue value))
    | typeKnown type => do .ok (whole (← decodeData false type value))
    | _ => .error (.duplicateField name)
  else do
    skip value
    .ok fields

def EventFields.finish : EventFields -> Decoded TransportEvent
  | nothing => .error (.missingField "type")
  | typeKnown _ => .error (.missingField "data")
  | dataSetAside _ => .error (.missingField "type")
  | whole event => .ok event

def decodeEvent (d : Draft) : Decoded TransportEvent := do
  let (members, ending) ← recordMembers ["type", "data"] 2 d
  (← foldMembers EventFields.step .nothing members ending).finish

end Wire

def TransportEvent.parse (s : String) : Decoded TransportEvent :=
  Wire.decodeText Wire.decodeEvent s

end RobotConsole
