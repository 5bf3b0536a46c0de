/-!
# The confirmation gate

Operations that would discard unsaved work first ask for a confirmation. The gate
numbers the requests and lets one of them be outstanding at a time. A verdict
leaves the gate free again at once; it then lies in the mail until the operation
that asked collects it.
-/

namespace RobotConsole

/-- Identifies one request; later requests have greater numbers. -/
structure RequestId where
  number : Nat
  deriving DecidableEq, Repr

def RequestId.text (id : RequestId) : String :=
  "#" ++ toString id.number

inductive Resolution where
  | confirmed
  | cancelled
  deriving DecidableEq, Repr

def Resolution.title : Resolution -> String
  | confirmed => "Confirmed"
  | cancelled => "Cancelled"

/-- How a request was taken from the gate. -/
inductive Verdict where
  | resolved (resolution : Resolution)
  | dismissed
  deriving DecidableEq, Repr

structure Gate where
  /-- How many requests were accepted so far. -/
  issued : Nat := 0
  outstanding : Option RequestId := none
  /-- Verdicts that were not collected yet. -/
  mail : List (RequestId × Verdict) := []
  deriving DecidableEq, Repr, Inhabited

namespace Gate

def next (g : Gate) : RequestId :=
  ⟨g.issued + 1⟩

def accept (g : Gate) : Gate :=
  { g with issued := g.issued + 1, outstanding := some g.next }

def deliver (g : Gate) (id : RequestId) (verdict : Verdict) : Gate :=
  { g with outstanding := none, mail := g.mail ++ [(id, verdict)] }

def verdict? (g : Gate) (id : RequestId) : Option Verdict :=
  g.mail.lookup id

/-- Nothing is kept for a request that has come to its end; the gate is free if that request
was outstanding. -/
def forget (g : Gate) (id : RequestId) : Gate :=
  { g with
    outstanding := if g.outstanding = some id then none else g.outstanding
    mail := g.mail.filter fun letter => letter.1 ≠ id }

/-! ## Description -/

def describe (g : Gate) (timeout : String) : String :=
  let pending :=
    match g.outstanding with
    | none => "None"
    | some id => "Some(RequestId(" ++ toString id.number ++ "))"
  "ConfirmationGate \x7b timeout: " ++ timeout ++ ", pending: " ++ pending ++ " \x7d"

end Gate
end RobotConsole
