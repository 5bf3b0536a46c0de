import RobotConsole.Duration.Text

/-!
# Failures of console operations

That the user backed out and that nobody answered in time are failures of their
own: the first one stops an operation quietly, the second one is reported.
-/

namespace RobotConsole

inductive Failure where
  | request (service method message : String)
  /-- The user backed out of the operation. -/
  | aborted
  /-- Nobody answered a confirmation request in time. -/
  | timedOut (limit : Duration)
  /-- Another confirmation request is outstanding. -/
  | busy
  | file (message : String)
  | transfer (message : String)
  | settings (message : String)
  deriving DecidableEq, Repr, Inhabited

namespace Failure

def message : Failure -> String
  | request service method message =>
      "Controller request " ++ service ++ "." ++ method ++ " failed: " ++ message
  | aborted => "Operation cancelled"
  | timedOut limit => "Confirmation was not resolved within " ++ limit.exactText
  | busy => "A confirmation is already pending"
  | file message => "File access failed: " ++ message
  | transfer message => "Transfer failed: " ++ message
  | settings message => "Invalid configuration: " ++ message

/-- Whether the user chose to stop, so that there is nothing to report. -/
def isAbort : Failure -> Bool
  | aborted => true
  | _ => false

end Failure
end RobotConsole
