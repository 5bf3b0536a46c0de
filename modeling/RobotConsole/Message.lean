/-!
# Messages of the console

What the console says about its own work, for its operators to follow.
-/

namespace RobotConsole

inductive Severity where
  | debug
  | info
  | warn
  | error
  deriving DecidableEq, Repr

def Severity.label : Severity -> String
  | debug => "DEBUG"
  | info => "INFO"
  | warn => "WARN"
  | error => "ERROR"

structure Message where
  severity : Severity
  text : String
  deriving DecidableEq, Repr

namespace Message

def debug (text : String) : Message :=
  ⟨.debug, text⟩

def info (text : String) : Message :=
  ⟨.info, text⟩

def warn (text : String) : Message :=
  ⟨.warn, text⟩

def error (text : String) : Message :=
  ⟨.error, text⟩

def line (m : Message) : String :=
  m.severity.label ++ " " ++ m.text

end Message
end RobotConsole
