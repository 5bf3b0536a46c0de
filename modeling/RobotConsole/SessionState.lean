import RobotConsole.Gate
import RobotConsole.Link.Estimator
import RobotConsole.Peripherals

/-!
# The state of a session

All that the console shows: the link, the peripherals, the confirmation dialog,
the editor and the log of the controller.
-/

namespace RobotConsole

structure ConfirmationView where
  pending : Bool := false
  request : Option RequestId := none
  deriving DecidableEq, Repr, Inhabited

def ConfirmationView.of (id : RequestId) : ConfirmationView :=
  ⟨true, some id⟩

structure EditorState where
  path : Option String := none
  content : String := ""
  /-- Whether there are changes that were not saved. -/
  dirty : Bool := false
  deriving DecidableEq, Repr, Inhabited

/-- The buffer becomes what was saved; if it was edited in the meantime it stays as it is, with
unsaved changes. -/
def EditorState.saved (e : EditorState) (path content text : String) : EditorState :=
  if e.content = content then { path := some path, content := text, dirty := false }
  else { e with path := some path }

structure SessionState where
  link : Link Float
  peripherals : Peripherals := {}
  confirmation : ConfirmationView := {}
  editor : EditorState := {}
  logs : LogHistory := {}

namespace SessionState

def fresh (health : HealthSettings) : SessionState where
  link := .fresh health

/-! ## Events of the transport -/

def applyBatch (s : SessionState) (now : Int) (batch : TelemetryBatch) : SessionState :=
  let timestamp := batch.timestampOr now
  { s with
    peripherals := s.peripherals.applySnapshot batch.kind timestamp batch.samples
    link :=
      if Peripherals.countsAsArrival batch.kind batch.disconnect then
        s.link.recordArrival timestamp
      else s.link }

def applyLog (s : SessionState) (event : LogEvent) : SessionState :=
  { s with link := s.link.noteLog event, logs := s.logs.push event }

def tick (s : SessionState) (now : Int) : SessionState :=
  { s with link := s.link.tick now }

/-! ## The dialog -/

def showRequest (s : SessionState) (id : RequestId) : SessionState :=
  { s with confirmation := .of id }

/-- The dialog is closed if it shows the given request. -/
def closeRequest (s : SessionState) (id : RequestId) : SessionState :=
  if s.confirmation.request = some id then { s with confirmation := {} } else s

end SessionState
end RobotConsole
