import RobotConsole.Telemetry

/-!
# Sources of transport events

A source hands over its events one at a time. It never waits: a poll that finds
nothing ready says so.
-/

namespace RobotConsole

structure Instant where
  /-- Milliseconds since the epoch, as the wall clock has them. -/
  wall : Int
  /-- Milliseconds on a clock that never goes back, far fewer than `2 ^ 63`. -/
  elapsed : Nat
  deriving DecidableEq, Repr, Inhabited

def Instant.later (i : Instant) (millis : Nat) : Instant :=
  ⟨i.wall + millis, i.elapsed + millis⟩

class EventSource (σ : Type) where
  poll : Instant -> σ -> Option TransportEvent × σ
  description : σ -> String
  fault? : σ -> Option String

namespace EventSource

def pollAll {σ : Type} [EventSource σ] (now : Instant) :
    Nat -> σ -> List (Option TransportEvent) × σ
  | 0, source => ([], source)
  | n + 1, source =>
      let (event, source) := poll now source
      let (events, source) := pollAll now n source
      (event :: events, source)

end EventSource
end RobotConsole
