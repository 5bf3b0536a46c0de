import RobotConsole.Console.Tasks
import RobotConsole.Console.Transport
import RobotConsole.Source.Basic

/-!
# Sessions

A session feeds a console from a source: it pumps the events that are ready, and
ticks on a fixed period until it is shut down.
-/

namespace RobotConsole

structure Session (σ : Type) where
  console : Console
  source : σ
  /-- The fault of the source when it was last looked at. -/
  lastFault : Option String := none

namespace Session

variable {σ : Type}

def mapConsole (s : Session σ) (change : Console -> Console) : Session σ :=
  { s with console := change s.console }

def say (s : Session σ) (message : Message) : Session σ :=
  s.mapConsole fun c => c.say message

variable [EventSource σ]

def description (s : Session σ) : String :=
  EventSource.description s.source

/-! ## Pumping -/

def pumpLimit : Nat := 1024

def pumpEvents (s : Session σ) (now : Instant) : Nat -> Session σ × Nat
  | 0 => (s, 0)
  | limit + 1 =>
      match EventSource.poll now s.source with
      | (none, source) => ({ s with source }, 0)
      | (some event, source) =>
          let s := { s with source, console := s.console.apply now.wall event }
          let (s, count) := s.pumpEvents now limit
          (s, count + 1)

/-- Says so when the source has a fault that it did not have before, or has recovered. -/
def noteFault (s : Session σ) : Session σ :=
  let fault := EventSource.fault? s.source
  if fault = s.lastFault then s
  else
    let message : Message :=
      match fault with
      | some e => .warn ("Source " ++ s.description ++ ": " ++ e)
      | none => .info ("Source " ++ s.description ++ " recovered")
    { s.say message with lastFault := fault }

def pump (s : Session σ) (now : Instant) : Session σ × Nat :=
  let (s, count) := s.pumpEvents now pumpLimit
  (s.noteFault, count)

/-! ## Running -/

def tickFloor : Duration :=
  .ofMillis 1

def tickPeriod (s : Session σ) : Duration :=
  s.console.settings.health.tickInterval.max tickFloor

def beat (s : Session σ) (now : Instant) : Session σ :=
  (s.pump now).1.mapConsole fun c => c.tick now.wall

def announce (s : Session σ) : Session σ :=
  s.say (.info ("Session started on " ++ s.description ++ " (tick every " ++
    s.tickPeriod.format ++ ")"))

def close (s : Session σ) : Session σ :=
  let (console, dismissed) := s.console.dismiss
  let s := { s with console }
  let s := if dismissed then s.say (.debug "Dismissed pending confirmation on shutdown") else s
  s.say (.info "Session stopped")

/-- The milliseconds after the start of a session at which it ticks, before it ends. A tick is
due at a multiple of the period, and comes with the next full millisecond. -/
def tickTimes (period : Duration) (length : Nat) : List Nat :=
  ((List.range (1000000 * length / period.nanos + 1)).map fun (n : Nat) =>
    (Duration.mk (n * period.nanos)).ceilMillis).filter (· < length)

def run (s : Session σ) (start : Instant) (length : Nat) : Session σ :=
  ((tickTimes s.tickPeriod length).foldl (fun s (t : Nat) => s.beat (start.later t)) s.announce).close

end Session
end RobotConsole
