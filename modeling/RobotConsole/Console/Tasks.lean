import RobotConsole.Console.Editing
import RobotConsole.Console.ModeControl

/-!
# Operations in progress

Every operation that is started gets a number. It is in progress as long as it
waits, and is resumed with the reply to what it waits for.
-/

namespace RobotConsole
namespace Console

/-- The first part of an operation, up to its first wait. `notice` is the outcome of sending an
emergency stop. -/
def begin (c : Console) (notice : Except Failure Unit) : Operation -> Console × Progress
  | .confirm => c.ask .nothing
  | .create => c.guarded .create
  | .openFile => c.guarded .openFile
  | .save saveAs => c.save .request saveAs
  | .download => c.guarded .download
  | .upload => c.upload
  | .answer choice => c.answerDialog choice
  | .changeMode mode => c.changeMode mode notice

/-- The part of an operation that follows a wait, up to the next one. -/
def resume (c : Console) : (wait : Wait) -> wait.Reply -> Console × Progress
  | .confirmation _ next => c.confirmed next
  | .openPath => c.pathChosen
  | .readFile path => c.fileRead path
  | .download => c.downloaded
  | .upload content => c.uploaded content
  | .savePath purpose content => c.savePathChosen purpose content
  | .writeFile purpose path content => c.fileWritten purpose path content
  | .invoke mode => c.modeSettled mode

/-! ## Numbered operations -/

def wait? (c : Console) (task : Nat) : Option Wait :=
  c.tasks.lookup task

def removeTask (c : Console) (task : Nat) : Console :=
  { c with tasks := c.tasks.filter fun entry => entry.1 ≠ task }

def settle (task : Nat) : Console × Progress -> Console
  | (c, .waiting wait) => { c with tasks := c.tasks ++ [(task, wait)] }
  | (c, .finished result) => { c with journal := .ended task result :: c.journal }

def start (c : Console) (operation : Operation) (notice : Except Failure Unit := .ok ()) :
    Console :=
  let task := c.started + 1
  settle task ({ c with started := task }.begin notice operation)

def reply (c : Console) (task : Nat) (wait : Wait) (answer : wait.Reply) : Console :=
  if wait.isCall ∧ c.wait? task = some wait then
    settle task ((c.removeTask task).resume wait answer)
  else c

/-- An operation that waits for a confirmation looks for what has come of its request. Until
there is an answer it waits on, unless its time has run out. -/
def wake (c : Console) (task : Nat) (expired : Bool) : Console :=
  match c.wait? task with
  | some (.confirmation id next) =>
      match c.collect? id expired with
      | some (c, outcome) => settle task ((c.removeTask task).resume (.confirmation id next) outcome)
      | none => c
  | _ => c

def drop (c : Console) (task : Nat) : Console × Bool :=
  match c.wait? task with
  | none => (c, false)
  | some wait =>
      let c := { c.removeTask task with journal := .dropped task :: c.journal }
      match wait with
      | .confirmation id _ => (c.releaseRequest id, true)
      | _ => (c, true)

end Console
end RobotConsole
