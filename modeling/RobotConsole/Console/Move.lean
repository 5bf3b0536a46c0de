import RobotConsole.Console.Tasks
import RobotConsole.Console.Transport

/-!
# Moves

Everything that can happen to a console, one step at a time. A run of a console
is a list of moves, in whatever order the operations, the collaborators, the user
and the transport make them.
-/

namespace RobotConsole

inductive Move where
  /-- The user starts an operation. `notice` is the outcome of sending an emergency stop. -/
  | start (operation : Operation) (notice : Except Failure Unit)
  | reply (task : Nat) (wait : Wait) (answer : wait.Reply)
  /-- An operation looks for what has come of its confirmation request. -/
  | wake (task : Nat) (expired : Bool)
  | drop (task : Nat)
  | resolve (resolution : Resolution)
  | resolveRequest (id : RequestId) (resolution : Resolution)
  | dismiss
  | edit (content : String)
  | setAlliance (alliance : Option Alliance)
  | apply (now : Int) (event : TransportEvent)
  | tick (now : Int)

namespace Console

def step (c : Console) : Move -> Console
  | .start operation notice => c.start operation notice
  | .reply task wait answer => c.reply task wait answer
  | .wake task expired => c.wake task expired
  | .drop task => (c.drop task).1
  | .resolve resolution => (c.resolve resolution).1
  | .resolveRequest id resolution => (c.resolveRequest id resolution).1
  | .dismiss => c.dismiss.1
  | .edit content => c.edit content
  | .setAlliance alliance => c.setAlliance alliance
  | .apply now event => c.apply now event
  | .tick now => c.tick now

def play (c : Console) (moves : List Move) : Console :=
  moves.foldl step c

theorem play_append (c : Console) (first second : List Move) :
    c.play (first ++ second) = (c.play first).play second :=
  List.foldl_append

end Console
end RobotConsole
