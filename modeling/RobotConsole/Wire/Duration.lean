import RobotConsole.Numeric.Shortest
import RobotConsole.Wire.Reading

/-!
# Durations on the wire

A duration is a text with a unit, or a number of seconds.
-/

namespace RobotConsole

def Duration.ofSecondsFloat (seconds : Float) : Decoded Duration :=
  if isNonNegative seconds then
    match ofFloat? seconds with
    | some d => .ok d
    | none => .error .endlessDuration
  else .error (.duration (.negative (Numeric.plainText seconds)))

def Duration.ofText (s : String) : Decoded Duration :=
  match parse s with
  | .ok d => .ok d
  | .error e => .error (.duration e)

namespace Wire

/-- A duration is a text with a unit, or a number of seconds. -/
def durationOfJson : Json -> Decoded Duration
  | .string s => Duration.ofText s
  | .integer n => Duration.ofSecondsFloat (Float.ofInt n)
  | .float x => Duration.ofSecondsFloat x
  | _ => .error .noDuration

def decodeDuration (d : Json.Draft) : Decoded Duration := do
  durationOfJson (← decodeValue d)

end Wire
end RobotConsole
