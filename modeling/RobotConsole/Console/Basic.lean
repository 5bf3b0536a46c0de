import RobotConsole.Operation
import RobotConsole.SessionState

/-!
# The console

The console holds the state of the session, the gate and the operations in
progress. What it does beyond that is written down in its journal: every
publication of the state, every message, every call on a collaborator.
-/

namespace RobotConsole

/-- A call on one of the collaborators: prompts, files, the controller, notices to the user and
the log display. -/
inductive Call where
  | openPath
  | savePath (current : Option String)
  | read (path : String)
  | write (path contents : String)
  | upload (remote : RemoteSettings) (contents : String)
  | download (remote : RemoteSettings)
  | invoke (service method : String)
  /-- Tell a service of the controller and do not wait. -/
  | notify (service method : String)
  | success (message : String)
  | error (message : String)
  | openLog
  deriving DecidableEq, Repr

inductive Happening where
  | published {state : SessionState}
  | said (message : Message)
  | called (call : Call)
  | ended (task : Nat) (result : OperationResult)
  | dropped (task : Nat)

structure Console where
  settings : Settings
  hasLogDisplay : Bool := true
  state : SessionState
  gate : Gate := {}
  /-- How many operations were started; they are numbered from one. -/
  started : Nat := 0
  tasks : List (Nat × Wait) := []
  /-- What happened, the latest first. -/
  journal : List Happening := []

namespace Console

def fresh (settings : Settings) (hasLogDisplay : Bool := true) : Console where
  settings
  hasLogDisplay
  state := .fresh settings.health

def update (c : Console) (change : SessionState -> SessionState) : Console :=
  let state := change c.state
  { c with state, journal := @Happening.published state :: c.journal }

def say (c : Console) (message : Message) : Console :=
  { c with journal := .said message :: c.journal }

def sayAll (c : Console) (messages : List Message) : Console :=
  messages.foldl say c

def call (c : Console) (call : Call) : Console :=
  { c with journal := .called call :: c.journal }

/-! ## What the journal does not touch

Messages and calls are written down and change nothing else; a change of the state
changes nothing but the state.
-/

section Fields

variable (c : Console)

theorem sayAll_eq (messages : List Message) :
    c.sayAll messages =
      { c with journal := (messages.map .said).reverse ++ c.journal } := by
  unfold sayAll
  induction messages generalizing c with
  | nil => rfl
  | cons message rest ih => simp [ih, say]

@[simp] theorem say_settings (m : Message) : (c.say m).settings = c.settings := rfl

@[simp] theorem say_hasLogDisplay (m : Message) : (c.say m).hasLogDisplay = c.hasLogDisplay := rfl

@[simp] theorem say_state (m : Message) : (c.say m).state = c.state := rfl

@[simp] theorem say_gate (m : Message) : (c.say m).gate = c.gate := rfl

@[simp] theorem say_started (m : Message) : (c.say m).started = c.started := rfl

@[simp] theorem say_tasks (m : Message) : (c.say m).tasks = c.tasks := rfl

@[simp] theorem sayAll_settings (ms : List Message) : (c.sayAll ms).settings = c.settings := by
  rw [sayAll_eq]

@[simp] theorem sayAll_hasLogDisplay (ms : List Message) :
    (c.sayAll ms).hasLogDisplay = c.hasLogDisplay := by
  rw [sayAll_eq]

@[simp] theorem sayAll_state (ms : List Message) : (c.sayAll ms).state = c.state := by
  rw [sayAll_eq]

@[simp] theorem sayAll_gate (ms : List Message) : (c.sayAll ms).gate = c.gate := by
  rw [sayAll_eq]

@[simp] theorem sayAll_started (ms : List Message) : (c.sayAll ms).started = c.started := by
  rw [sayAll_eq]

@[simp] theorem sayAll_tasks (ms : List Message) : (c.sayAll ms).tasks = c.tasks := by
  rw [sayAll_eq]

@[simp] theorem call_settings (call : Call) : (c.call call).settings = c.settings := rfl

@[simp] theorem call_hasLogDisplay (call : Call) :
    (c.call call).hasLogDisplay = c.hasLogDisplay := rfl

@[simp] theorem call_state (call : Call) : (c.call call).state = c.state := rfl

@[simp] theorem call_gate (call : Call) : (c.call call).gate = c.gate := rfl

@[simp] theorem call_started (call : Call) : (c.call call).started = c.started := rfl

@[simp] theorem call_tasks (call : Call) : (c.call call).tasks = c.tasks := rfl

@[simp] theorem update_settings (f : SessionState -> SessionState) :
    (c.update f).settings = c.settings := rfl

@[simp] theorem update_hasLogDisplay (f : SessionState -> SessionState) :
    (c.update f).hasLogDisplay = c.hasLogDisplay := rfl

@[simp] theorem update_state (f : SessionState -> SessionState) :
    (c.update f).state = f c.state := rfl

@[simp] theorem update_gate (f : SessionState -> SessionState) :
    (c.update f).gate = c.gate := rfl

@[simp] theorem update_started (f : SessionState -> SessionState) :
    (c.update f).started = c.started := rfl

@[simp] theorem update_tasks (f : SessionState -> SessionState) :
    (c.update f).tasks = c.tasks := rfl

end Fields

/-! ## The journal -/

def withoutJournal (c : Console) : Console :=
  { c with journal := [] }

def happenings (c : Console) : List Happening :=
  c.journal.reverse

end Console
end RobotConsole
