import RobotConsole.Log
import RobotConsole.Wire.Reading

/-!
# Log events on the wire

The fields of a log event and those of its context are members of one object.
The message may also go by the name `event`, and the level `warn` by the name
`warning`.
-/

namespace RobotConsole

namespace LogLevel

def table : List (String × LogLevel) :=
  [("debug", debug), ("info", info), ("warn", warn), ("warning", warn), ("error", error),
    ("critical", critical)]

def toJson (level : LogLevel) : Json :=
  .string level.name

end LogLevel

namespace LogEvent

/-- The fields in order, and then those of the context; their names are not told apart. -/
def toJson (event : LogEvent) : Json :=
  .object
    (("timestamp_ms", .integer event.timestamp) :: ("level", event.level.toJson) ::
      ("message", .string event.message) :: Reading.entriesToJson event.context)

end LogEvent

namespace Wire

def decodeLevel (setAside : Bool := false) : Json.Draft -> Decoded LogLevel :=
  decodeVariant LogLevel.table setAside

structure LogFields where
  timestamp? : Option Int := none
  level? : Option LogLevel := none
  message? : Option String := none
  context : List (String × Reading) := []

def LogFields.step (setAside : Bool) (fields : LogFields) (name : String) (value : Json.Draft) :
    Decoded LogFields := do
  if name = "timestamp_ms" then
    .ok { fields with timestamp? := ← setOnce name fields.timestamp? decodeInt64 value }
  else if name = "level" then
    .ok { fields with level? := ← setOnce name fields.level? (decodeLevel setAside) value }
  else if name = "message" ∨ name = "event" then
    .ok { fields with message? := ← setOnce "message" fields.message? decodeString value }
  else
    .ok { fields with context := fields.context ++ [(name, ← decodeReading value)] }

/-- The message is required; by default an event has the time zero and the level `info`. -/
def LogFields.finish (fields : LogFields) : Decoded LogEvent :=
  match fields.message? with
  | none => .error (.missingField "message")
  | some message =>
      .ok
        { timestamp := fields.timestamp?.getD 0
          level := fields.level?.getD .info
          message
          context := Dict.ofList fields.context }

def decodeLog (setAside : Bool := false) : Json.Draft -> Decoded LogEvent
  | .object members ending => do
      (← foldMembers (LogFields.step setAside) {} members ending).finish
  | _ => .error .malformed

end Wire
end RobotConsole
