import RobotConsole.Console.Basic

/-!
# Confirmations

How operations ask for a confirmation and how their requests come to an end: by
an answer, by being dismissed, by running out of time, or because the operation
is dropped.
-/

namespace RobotConsole
namespace Console

/-! ## Asking -/

def requestConfirmation (c : Console) : Console × Except Failure RequestId :=
  match c.gate.outstanding with
  | some id =>
      (c.say (.warn ("Confirmation " ++ id.text ++ " still pending, rejecting new request")),
        .error .busy)
  | none =>
      let id := c.gate.next
      let c := { c with gate := c.gate.accept }
      ((c.update fun s => s.showRequest id).say (.debug ("Confirmation " ++ id.text ++ " requested")),
        .ok id)

/-! ## Answering -/

def deliver (c : Console) (id : RequestId) (verdict : Verdict) : Console :=
  { c with gate := c.gate.deliver id verdict }.update fun s => s.closeRequest id

/-- The answer to the outstanding request, whichever it is. Says whether there was one. -/
def resolve (c : Console) (resolution : Resolution) : Console × Bool :=
  match c.gate.outstanding with
  | some id => (c.deliver id (.resolved resolution), true)
  | none =>
      (c.say (.debug ("No confirmation pending, ignoring " ++ resolution.title)), false)

def resolveRequest (c : Console) (id : RequestId) (resolution : Resolution) : Console × Bool :=
  if c.gate.outstanding = some id then (c.deliver id (.resolved resolution), true)
  else
    (c.say (.debug ("Confirmation " ++ id.text ++ " is not pending, ignoring " ++
      resolution.title)), false)

def dismiss (c : Console) : Console × Bool :=
  match c.gate.outstanding with
  | some id => (c.deliver id .dismissed, true)
  | none => (c, false)

/-! ## Coming to an end -/

def releaseRequest (c : Console) (id : RequestId) : Console :=
  let c := { c with gate := c.gate.forget id }
  if c.state.confirmation.request = some id then c.update fun s => s.closeRequest id else c

/-- What a request has come to: its verdict if there is one, and otherwise that it ran out of
time, if it did. -/
def outcome? (c : Console) (id : RequestId) (expired : Bool) :
    Option (Message × Except Failure Unit) :=
  let subject := "Confirmation " ++ id.text
  match c.gate.verdict? id with
  | some (.resolved .confirmed) => some (.info (subject ++ " confirmed"), .ok ())
  | some (.resolved .cancelled) => some (.info (subject ++ " cancelled"), .error .aborted)
  | some .dismissed => some (.debug (subject ++ " dismissed"), .error .aborted)
  | none =>
      if expired then
        let timeout := c.settings.gate.timeout
        some (.warn (subject ++ " not resolved within " ++ timeout.exactText),
          .error (.timedOut timeout))
      else none

def collect? (c : Console) (id : RequestId) (expired : Bool) :
    Option (Console × Except Failure Unit) :=
  (c.outcome? id expired).map fun (message, outcome) =>
    ((c.say message).releaseRequest id, outcome)

end Console
end RobotConsole
