import RobotConsole.History
import RobotConsole.Link.Scalar
import RobotConsole.Log
import RobotConsole.Message
import RobotConsole.Mode
import RobotConsole.Settings.Basic

/-!
# The link to the controller

What the console knows of the link: whether it is up, in which mode the
controller is, whether it reported a fault, and the arrivals from which the
estimator works. A link that is down always reads as idle and without a fault.
-/

namespace RobotConsole

inductive LinkStatus where
  | healthy
  | unhealthy
  | disconnected
  deriving DecidableEq, Repr, Inhabited

namespace LinkStatus

def symbol : LinkStatus -> String
  | healthy => "OK"
  | unhealthy => "SLOW"
  | disconnected => "DOWN"

def title : LinkStatus -> String
  | healthy => "Healthy"
  | unhealthy => "Unhealthy"
  | disconnected => "Disconnected"

end LinkStatus

def arrivalCapacity : Nat := 50

structure Link (α : Type) where
  status : LinkStatus := .disconnected
  mode : Mode := .idle
  alliance : Option Alliance := none
  /-- When telemetry arrived, in milliseconds. -/
  arrivals : History arrivalCapacity Int := {}
  smoothedRate : α
  /-- The smoothed rate as a part of the expected one. -/
  relativeRate : α
  errorFlag : Bool := false
  expectedInterval : Duration
  disconnectTimeout : Duration

namespace Link

variable {α : Type}

def fresh [RateScalar α] (settings : HealthSettings) : Link α where
  smoothedRate := 0.0
  relativeRate := 0.0
  expectedInterval := settings.expectedInterval
  disconnectTimeout := settings.disconnectTimeout

def recordArrival (link : Link α) (timestamp : Int) : Link α :=
  { link with arrivals := link.arrivals.push timestamp }

def setAlliance (link : Link α) (alliance : Option Alliance) : Link α :=
  { link with alliance }

def isDown (link : Link α) : Bool :=
  link.status = .disconnected

/-! ## Faults and modes -/

/-- A fault raises the flag, unless the link is down. -/
def noteLog (link : Link α) (event : LogEvent) : Link α :=
  if event.level.isFault ∧ ¬link.isDown then { link with errorFlag := true } else link

def noteLogMessages (link : Link α) (event : LogEvent) : List Message :=
  if !event.level.isFault then []
  else if link.isDown then [.debug ("Ignoring fault while disconnected: " ++ event.message)]
  else if !link.errorFlag then [.warn ("Controller fault reported: " ++ event.message)]
  else []

/-- The outcome of a successful mode change. An emergency stop leaves the controller idle and
faulted, and going idle clears the fault; a link that is down stays as it is. -/
def applyMode (link : Link α) (requested : Mode) : Link α :=
  if link.isDown then { link with mode := .idle, errorFlag := false }
  else
    match requested with
    | .emergencyStop => { link with mode := .idle, errorFlag := true }
    | .idle => { link with mode := .idle, errorFlag := false }
    | active => { link with mode := active }

def applyModeMessages (link : Link α) (requested : Mode) : List Message :=
  if link.isDown then [.debug ("Link down, keeping idle instead of " ++ requested.label)] else []

end Link
end RobotConsole
