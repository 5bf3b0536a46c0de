import RobotConsole.Console.Basic

/-!
# Mode control

Mode changes are requests to the controller; each one takes effect when its own
reply arrives. An emergency stop is sent without waiting for a reply.
-/

namespace RobotConsole
namespace Console

def executorService : String := "executor-service"

/-- A failure of a mode change is a failed request, whatever lies behind it. -/
def requestFailure (mode : Mode) : Failure -> Failure
  | .request service method message => .request service method message
  | other => .request executorService mode.name other.message

def opensLog (c : Console) (mode : Mode) : Bool :=
  mode.isActive && c.settings.control.openLogOnRun && c.hasLogDisplay

def modeSettled (c : Console) (mode : Mode) : Except Failure Unit -> Console × Progress
  | .error failure =>
      let failure := requestFailure mode failure
      let c := c.say (.warn ("Mode change to " ++ mode.label ++ " failed: " ++ failure.message))
      (c.call (.error ("Could not switch to " ++ mode.label ++ ": " ++ failure.message)),
        .finished (.error failure))
  | .ok () =>
      let c := c.sayAll (c.state.link.applyModeMessages mode)
      let c := c.update fun s => { s with link := s.link.applyMode mode }
      let c := c.say (.info ("Mode changed to " ++ mode.label))
      (if c.opensLog mode then c.call .openLog else c, .finished (.ok none))

/-- A mode change. `notice` is the outcome of sending an emergency stop. -/
def changeMode (c : Console) (mode : Mode) (notice : Except Failure Unit) : Console × Progress :=
  match mode with
  | .emergencyStop => (c.call (.notify executorService mode.name)).modeSettled mode notice
  | _ => (c.call (.invoke executorService mode.name), .waiting (.invoke mode))

def setAlliance (c : Console) (alliance : Option Alliance) : Console :=
  let c := c.update fun s => { s with link := s.link.setAlliance alliance }
  match alliance with
  | some a => c.say (.info ("Alliance set to " ++ a.label))
  | none => c.say (.info "Alliance cleared")

end Console
end RobotConsole
