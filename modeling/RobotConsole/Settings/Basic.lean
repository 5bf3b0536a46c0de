import RobotConsole.Duration.Basic
import RobotConsole.Failure

/-!
# Settings of the console
-/

namespace RobotConsole

structure HealthSettings where
  tickInterval : Duration := .ofMillis 200
  /-- The time between two telemetry batches as the controller should send them. -/
  expectedInterval : Duration := .ofMillis 100
  /-- The silence after which the link counts as down. -/
  disconnectTimeout : Duration := .ofSeconds 8
  deriving DecidableEq, Repr, Inhabited

structure GateSettings where
  /-- How long a confirmation request waits for an answer. -/
  timeout : Duration := .ofSeconds 60
  deriving DecidableEq, Repr, Inhabited

structure EditorSettings where
  stripTrailingWhitespace : Bool := false
  ensureTrailingNewline : Bool := true
  deriving DecidableEq, Repr, Inhabited

structure ControlSettings where
  /-- Whether the log display opens when a program starts. -/
  openLogOnRun : Bool := true
  deriving DecidableEq, Repr, Inhabited

structure RemoteSettings where
  host : String := "192.168.0.1"
  port : Nat := 22
  user : String := "pi"
  codePath : String := "runtime/studentcode.py"
  deriving DecidableEq, Repr, Inhabited

structure Settings where
  health : HealthSettings := {}
  gate : GateSettings := {}
  editor : EditorSettings := {}
  control : ControlSettings := {}
  remote : RemoteSettings := {}
  deriving DecidableEq, Repr, Inhabited

namespace Settings

def intervals (s : Settings) : List (String × Duration) :=
  [("health.tick_interval", s.health.tickInterval),
    ("health.expected_interval", s.health.expectedInterval),
    ("gate.timeout", s.gate.timeout)]

def validate (s : Settings) : Except Failure Unit :=
  match s.intervals.find? fun interval => interval.2.isZero with
  | some (name, _) => .error (.settings (name ++ " must be greater than zero"))
  | none => .ok ()

end Settings
end RobotConsole
