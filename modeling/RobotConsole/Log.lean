import RobotConsole.History
import RobotConsole.Reading

/-!
# Log events of the controller
-/

namespace RobotConsole

/-! ## Levels -/

inductive LogLevel where
  | debug
  | info
  | warn
  | error
  | critical
  deriving DecidableEq, Repr, Inhabited

namespace LogLevel

def name : LogLevel -> String
  | debug => "debug"
  | info => "info"
  | warn => "warn"
  | error => "error"
  | critical => "critical"

def symbol : LogLevel -> String
  | debug => "DBG"
  | info => "INF"
  | warn => "WRN"
  | error => "ERR"
  | critical => "CRT"

def severity : LogLevel -> Nat
  | debug => 0
  | info => 1
  | warn => 2
  | error => 3
  | critical => 4

def isFault (level : LogLevel) : Bool :=
  error.severity ≤ level.severity

end LogLevel

/-! ## Events -/

structure LogEvent where
  timestamp : Int
  level : LogLevel
  message : String
  /-- Any further fields of the event. -/
  context : Dict String Reading := []
  deriving Inhabited

namespace LogEvent

def withField (event : LogEvent) (key : String) (value : Reading) : LogEvent :=
  { event with context := Dict.insert key value event.context }

end LogEvent

def logCapacity : Nat := 200

abbrev LogHistory := History logCapacity LogEvent

end RobotConsole
