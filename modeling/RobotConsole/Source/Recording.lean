import RobotConsole.Source.Basic
import RobotConsole.Text.Lines
import RobotConsole.Text.Utf8
import RobotConsole.Wire.Telemetry

/-!
# Recorded sessions

A recording holds one event a line. Its events are released at the pace at which
they were recorded: an event is due as long after the first poll as it was
recorded after the first event that has a time. Telemetry is stamped anew when
it is released, so that the health of the link behaves as it did live. The texts of
faults leave out what the reader of JSON itself says of a malformed line.
-/

namespace RobotConsole

/-! ## The recorded format -/

namespace Recording

def readLine (line : List Char) : Option (Decoded TransportEvent) :=
  let trimmed := Text.trimChars line
  if trimmed = [] then none else some (Wire.decodeChars Wire.decodeEvent trimmed)

def entries (cs : List Char) : List (Nat × Decoded TransportEvent) :=
  ((Text.lines cs).zipIdx 1).filterMap fun (line, number) =>
    (readLine line).map fun entry => (number, entry)

def events (cs : List Char) : List TransportEvent :=
  (entries cs).filterMap fun entry => entry.2.toOption

def lastFault? (cs : List Char) : Option Nat :=
  ((entries cs).filter fun entry => entry.2.toOption.isNone).getLast?.map Prod.fst

end Recording

/-! ## Replaying -/

structure Replay where
  pending : List TransportEvent
  origin? : Option Int
  started : Nat
  fault : Option String

structure RecordedSource where
  path : String
  /-- What reading the file comes to: its bytes, or what is wrong. -/
  file : Except String (List UInt8)
  replay? : Option Replay := none

namespace RecordedSource

def readText (file : Except String (List UInt8)) : Except String (List Char) :=
  match file with
  | .error e => .error e
  | .ok bytes =>
      match Text.decodeUtf8 bytes with
      | .ok cs => .ok cs
      | .error _ => .error "stream did not contain valid UTF-8"

def load (s : RecordedSource) (now : Instant) : Replay :=
  match readText s.file with
  | .error e => ⟨[], none, now.elapsed, some ("Read error: " ++ e)⟩
  | .ok cs =>
      let events := Recording.events cs
      { pending := events
        origin? := events.findSome? TransportEvent.recordedAt?
        started := now.elapsed
        fault := (Recording.lastFault? cs).map fun n => "Parse error on line " ++ toString n }

/-- Whether an event is due. One without a time always is. Times have 64 bits, and so has their
difference. -/
def isDue (r : Replay) (now : Instant) (event : TransportEvent) : Bool :=
  match event.recordedAt?, r.origin? with
  | some at', some origin => Numeric.wrapInt64 (at' - origin) ≤ (now.elapsed - r.started : Nat)
  | _, _ => true

def restamp (now : Int) : TransportEvent -> TransportEvent
  | .telemetry batch => .telemetry { batch with timestamp? := some now }
  | event => event

def release (r : Replay) (now : Instant) : Option TransportEvent × Replay :=
  match r.pending with
  | [] => (none, r)
  | event :: rest =>
      if isDue r now event then (some (restamp now.wall event), { r with pending := rest })
      else (none, r)

/-- The first poll reads the recording. -/
def poll (s : RecordedSource) (now : Instant) : Option TransportEvent × RecordedSource :=
  let (event, replay) := release (s.replay?.getD (s.load now)) now
  (event, { s with replay? := some replay })

/-- How many events were not released yet; zero as long as the recording was not read. -/
def remaining (s : RecordedSource) : Nat :=
  match s.replay? with
  | some replay => replay.pending.length
  | none => 0

instance : EventSource RecordedSource where
  poll now s := s.poll now
  description s := "file: " ++ s.path
  fault? s := s.replay?.bind Replay.fault

end RecordedSource
end RobotConsole
