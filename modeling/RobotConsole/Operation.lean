import RobotConsole.Failure
import RobotConsole.Gate
import RobotConsole.Mode

/-!
# Operations of the console

An operation runs until it has to wait: for the answer to a confirmation request,
or for a collaborator. What it waits for says all about how it goes on, so an
operation in progress is nothing more than its wait, and it is resumed with a
reply of the type that fits the wait.
-/

namespace RobotConsole

inductive DialogChoice where
  | discard
  | save
  | cancel
  deriving DecidableEq, Repr

def DialogChoice.title : DialogChoice -> String
  | discard => "Discard"
  | save => "Save"
  | cancel => "Cancel"

inductive Operation where
  /-- Ask for a confirmation and do nothing else. -/
  | confirm
  | create
  | openFile
  | save (saveAs : Bool)
  | download
  | upload
  | answer (choice : DialogChoice)
  | changeMode (mode : Mode)
  deriving DecidableEq, Repr

/-- The operations that a confirmation holds up. -/
inductive Guarded where
  | nothing
  | create
  | openFile
  | download
  deriving DecidableEq, Repr

inductive SavePurpose where
  | request
  | answer
  deriving DecidableEq, Repr

inductive Wait where
  | confirmation (request : RequestId) (next : Guarded)
  | openPath
  | readFile (path : String)
  | download
  | upload (content : String)
  | savePath (purpose : SavePurpose) (content : String)
  | writeFile (purpose : SavePurpose) (path content : String)
  | invoke (mode : Mode)
  deriving DecidableEq, Repr

def Wait.isCall : Wait -> Bool
  | confirmation .. => false
  | _ => true

/-- What resumes an operation. A prompt gives no path when the user dismisses it. -/
abbrev Wait.Reply : Wait -> Type
  | confirmation .. => Except Failure Unit
  | openPath => Option String
  | readFile _ => Except Failure String
  | download => Except Failure String
  | upload _ => Except Failure Unit
  | savePath .. => Option String
  | writeFile .. => Except Failure Unit
  | invoke _ => Except Failure Unit

/-- How an operation ends. One that saves the buffer gives the path. -/
abbrev OperationResult := Except Failure (Option String)

inductive Progress where
  | waiting (wait : Wait)
  | finished (result : OperationResult)

end RobotConsole
