import RobotConsole.Console.Move
import RobotConsole.Export
import RobotConsole.Session

/-!
# Rehearsals

A session without a robot. The collaborators answer from a script, and may be
held back; the clock moves only when it is told to. One operation runs at a
time, until it waits. A request for a confirmation runs out of time once the
clock has reached its deadline, rounded up to a millisecond.
-/

namespace RobotConsole

/-! ## Scripts -/

inductive CallKind where
  | openPath
  | savePath
  | read
  | write
  | upload
  | download
  | invoke
  | notify
  deriving DecidableEq, Repr

abbrev ScriptedReply := Except Failure (Option String)

def Wait.callKind? : Wait -> Option CallKind
  | confirmation .. => none
  | openPath => some .openPath
  | readFile _ => some .read
  | download => some .download
  | upload _ => some .upload
  | savePath .. => some .savePath
  | writeFile .. => some .write
  | invoke _ => some .invoke

def ScriptedReply.done (r : ScriptedReply) : Except Failure Unit :=
  r.map fun _ => ()

def ScriptedReply.text (r : ScriptedReply) : Except Failure String :=
  r.map fun answer => answer.getD ""

/-- A prompt that fails gives no path. -/
def ScriptedReply.path (r : ScriptedReply) : Option String :=
  r.toOption.join

def ScriptedReply.toReply (r : ScriptedReply) : (wait : Wait) -> wait.Reply
  | .confirmation .. => r.done
  | .openPath => r.path
  | .readFile _ => r.text
  | .download => r.text
  | .upload _ => r.done
  | .savePath .. => r.path
  | .writeFile .. => r.done
  | .invoke _ => r.done

structure HeldCall where
  task : Nat
  wait : Wait
  answer : ScriptedReply

structure Rehearsal (σ : Type) where
  session : Session σ
  /-- The wall clock, which stands still. -/
  wall : Int
  clock : Nat := 0
  deadlines : List (Nat × Nat) := []
  script : List (CallKind × ScriptedReply) := []
  holding : List CallKind := []
  held : List HeldCall := []

namespace Rehearsal

variable {σ : Type}

def console (r : Rehearsal σ) : Console :=
  r.session.console

def mapConsole (r : Rehearsal σ) (change : Console -> Console) : Rehearsal σ :=
  { r with session := r.session.mapConsole change }

def step (r : Rehearsal σ) (move : Move) : Rehearsal σ :=
  r.mapConsole fun c => c.step move

def now (r : Rehearsal σ) : Instant :=
  ⟨r.wall, r.clock⟩

/-- The next answer for a call; without one the call succeeds and gives nothing. -/
def nextReply (r : Rehearsal σ) (kind : CallKind) : ScriptedReply × Rehearsal σ :=
  match r.script.lookup kind with
  | some answer => (answer, { r with script := r.script.eraseP fun entry => entry.1 = kind })
  | none => (.ok none, r)

/-! ## Running operations -/

def callsInRow : Nat := 2

/-- An operation goes on with the answers of the script until it ends, is held back, or waits
for a confirmation. -/
def serve (r : Rehearsal σ) (task : Nat) : Nat -> Rehearsal σ
  | 0 => r
  | calls + 1 =>
      match r.console.wait? task with
      | none => r
      | some wait =>
          match wait.callKind? with
          | none =>
              let deadline := r.clock + r.console.settings.gate.timeout.ceilMillis
              { r with deadlines := (task, deadline) :: r.deadlines }
          | some kind =>
              let (answer, r) := r.nextReply kind
              if kind ∈ r.holding then { r with held := r.held ++ [⟨task, wait, answer⟩] }
              else
                (r.step (.reply task wait (answer.toReply wait))).serve task calls

def serveAll (r : Rehearsal σ) (task : Nat) : Rehearsal σ :=
  r.serve task (callsInRow + 1)

def hasExpired (r : Rehearsal σ) (isOver : Nat -> Bool) (task : Nat) : Bool :=
  (r.deadlines.lookup task).any isOver

def ready? (r : Rehearsal σ) (isOver : Nat -> Bool) : Option Nat :=
  (r.console.tasks.find? fun (task, wait) =>
    match wait with
    | .confirmation id _ =>
        (r.console.gate.verdict? id).isSome || r.hasExpired isOver task
    | _ => false).map Prod.fst

def wakeReady (r : Rehearsal σ) (isOver : Nat -> Bool) : Nat -> Rehearsal σ
  | 0 => r
  | limit + 1 =>
      match r.ready? isOver with
      | none => r
      | some task =>
          let expired := r.hasExpired isOver task
          ((r.step (.wake task expired)).serveAll task).wakeReady isOver limit

def settleWhere (r : Rehearsal σ) (isOver : Nat -> Bool) : Rehearsal σ :=
  r.wakeReady isOver r.console.tasks.length

def settle (r : Rehearsal σ) : Rehearsal σ :=
  r.settleWhere (· ≤ r.clock)

/-! ## Cues -/

def act (r : Rehearsal σ) (move : Move) : Rehearsal σ :=
  (r.step move).settle

def ask (r : Rehearsal σ) (change : Console -> Console × Bool) : Rehearsal σ × Bool :=
  let (console, answer) := change r.console
  ((r.mapConsole fun _ => console).settle, answer)

def start (r : Rehearsal σ) (operation : Operation) : Rehearsal σ :=
  let (notice, r) :=
    if operation = .changeMode .emergencyStop then r.nextReply .notify else (.ok none, r)
  let r := r.step (.start operation notice.done)
  (r.serveAll r.console.started).settle

def drop (r : Rehearsal σ) (task : Nat) : Rehearsal σ × Bool :=
  let r := { r with
    held := r.held.filter fun call => call.task ≠ task
    deadlines := r.deadlines.filter fun entry => entry.1 ≠ task }
  r.ask fun c => c.drop task

def addScript (r : Rehearsal σ) (kind : CallKind) (answers : List ScriptedReply) :
    Rehearsal σ :=
  { r with script := r.script ++ answers.map fun answer => (kind, answer) }

def hold (r : Rehearsal σ) (kind : CallKind) : Rehearsal σ :=
  { r with holding := kind :: r.holding }

def answerHeld (r : Rehearsal σ) (call : HeldCall) : Rehearsal σ :=
  let r := r.step (.reply call.task call.wait (call.answer.toReply call.wait))
  (r.serveAll call.task).settle

def release (r : Rehearsal σ) (kind : CallKind) : Rehearsal σ :=
  let (free, held) := r.held.partition fun call => call.wait.callKind? = some kind
  free.foldl answerHeld
    { r with holding := r.holding.filter (· ≠ kind), held }

def advance (r : Rehearsal σ) (millis : Nat) : Rehearsal σ :=
  { r with clock := r.clock + millis }.settle

/-! ## The session -/

variable [EventSource σ]

def pump (r : Rehearsal σ) : Rehearsal σ × Nat :=
  let (session, count) := r.session.pump r.now
  ({ r with session }.settle, count)

def expireBefore (r : Rehearsal σ) (time : Nat) : Rehearsal σ :=
  r.settleWhere (· < time)

def run (r : Rehearsal σ) (length : Nat) : Rehearsal σ :=
  let times := Session.tickTimes r.session.tickPeriod length
  let opened := { r with session := r.session.announce }
  let played := times.foldl (fun r' (t : Nat) =>
    let r' := r'.expireBefore (r.clock + t)
    { r' with session := r'.session.beat ⟨r.wall, r.clock + t⟩ }) opened
  let ended := played.expireBefore (r.clock + length)
  { ended with session := ended.session.close }.advance length

end Rehearsal
end RobotConsole
