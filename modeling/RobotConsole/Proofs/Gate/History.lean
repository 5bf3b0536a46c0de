import RobotConsole.Proofs.Console.Run

/-!
# The history of requests

What a run shows of the requests for confirmations: which ones the gate accepts, how
each of them leaves the gate, and with what outcome the operation behind it goes on.
The three are observed apart from each other: a release by what a move does to the
request that is outstanding, an ending by what the operation is given.
-/

namespace RobotConsole

/-- How a request leaves the gate. -/
inductive Release where
  | answered (resolution : Resolution)
  | dismissed
  | expired
  | dropped
  deriving DecidableEq, Repr

def Release.verdict? : Release -> Option Verdict
  | answered resolution => some (.resolved resolution)
  | dismissed => some .dismissed
  | expired => none
  | dropped => none

/-- How a request ends that left the gate in a given way; one that was dropped has no outcome. -/
def Release.outcome? (timeout : Duration) : Release -> Option (Except Failure Unit)
  | answered .confirmed => some (.ok ())
  | answered .cancelled => some (.error .aborted)
  | dismissed => some (.error .aborted)
  | expired => some (.error (.timedOut timeout))
  | dropped => none

def Verdict.outcome : Verdict -> Except Failure Unit
  | resolved .confirmed => .ok ()
  | resolved .cancelled => .error .aborted
  | dismissed => .error .aborted

theorem Release.outcome?_of_verdict {release : Release} {verdict : Verdict}
    (h : release.verdict? = some verdict) (timeout : Duration) :
    release.outcome? timeout = some verdict.outcome := by
  cases release with
  | answered resolution =>
      cases h
      cases resolution <;> rfl
  | dismissed =>
      cases h
      rfl
  | expired => cases h
  | dropped => cases h

namespace Console

theorem outcome?_snd (c : Console) (id : RequestId) (expired : Bool) :
    (c.outcome? id expired).map Prod.snd =
      match c.gate.verdict? id with
      | some verdict => some verdict.outcome
      | none => if expired then some (.error (.timedOut c.settings.gate.timeout)) else none := by
  unfold outcome?
  cases c.gate.verdict? id with
  | none => cases expired <;> rfl
  | some verdict => cases verdict with
    | resolved resolution => cases resolution <;> rfl
    | dismissed => rfl

/-! ## Observations -/

/-- The request that the gate accepts. -/
def acceptance? (c : Console) (m : Move) : Option RequestId :=
  if (c.effect m).asks ∧ c.gate.outstanding = none then some c.gate.next else none

def releaseOf? (c : Console) (id : RequestId) : Move -> Option Release
  | .resolveRequest other resolution =>
      if other = id then some (.answered resolution) else none
  | .dismiss => some .dismissed
  | .wake task expired =>
      if c.request? task = some id ∧ expired then some .expired else none
  | .drop task => if c.request? task = some id then some .dropped else none
  | m => (c.effect m).answer.map .answered

/-- The request that leaves the gate, and how. -/
def release? (c : Console) (m : Move) : Option (RequestId × Release) :=
  c.gate.outstanding.bind fun id => (c.releaseOf? id m).map fun release => (id, release)

/-- The request whose operation goes on, with the outcome that the operation is given; none if it
does not go on because it is dropped. -/
def ending? (c : Console) : Move -> Option (RequestId × Option (Except Failure Unit))
  | .wake task expired =>
      (c.collected? task expired).map fun (id, _, outcome) => (id, some outcome)
  | .drop task => (c.request? task).map fun id => (id, none)
  | _ => none

/-! ## What is known of one request -/

def ofRequest {α : Type} (id : RequestId) (observed : List (RequestId × α)) : List α :=
  observed.filterMap fun entry => if entry.1 = id then some entry.2 else none

theorem ofRequest_append {α : Type} (id : RequestId) (first second : List (RequestId × α)) :
    ofRequest id (first ++ second) = ofRequest id first ++ ofRequest id second :=
  List.filterMap_append

def acceptances (c : Console) (moves : List Move) : List RequestId :=
  c.trace acceptance? moves

def releases (c : Console) (moves : List Move) (id : RequestId) : List Release :=
  ofRequest id (c.trace release? moves)

def endings (c : Console) (moves : List Move) (id : RequestId) :
    List (Option (Except Failure Unit)) :=
  ofRequest id (c.trace ending? moves)

theorem acceptances_snoc (c : Console) (moves : List Move) (m : Move) :
    c.acceptances (moves ++ [m]) =
      c.acceptances moves ++ ((c.play moves).acceptance? m).toList :=
  c.trace_snoc acceptance? moves m

theorem releases_snoc (c : Console) (moves : List Move) (m : Move) (id : RequestId) :
    c.releases (moves ++ [m]) id =
      c.releases moves id ++ ofRequest id ((c.play moves).release? m).toList := by
  unfold releases
  rw [trace_snoc, ofRequest_append]

theorem endings_snoc (c : Console) (moves : List Move) (m : Move) (id : RequestId) :
    c.endings (moves ++ [m]) id =
      c.endings moves id ++ ofRequest id ((c.play moves).ending? m).toList := by
  unfold endings
  rw [trace_snoc, ofRequest_append]

end Console
end RobotConsole
