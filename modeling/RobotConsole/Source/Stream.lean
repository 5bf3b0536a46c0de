import RobotConsole.Source.Recording

/-!
# Streams

Events that arrive as bytes, one event a line. A reader takes the bytes apart in
the background and buffers the events; when the buffer is full it waits for room,
and what arrives meanwhile is left unread. The text of a fault leaves out what the
reader of JSON itself says of a malformed line.
-/

namespace RobotConsole

def streamCapacity : Nat := 256

inductive StreamEnd where
  | ahead
  | closed
  | failed (message : String)
  deriving DecidableEq, Repr

structure StreamSource where
  label : String
  buffer : List TransportEvent := []
  /-- The event for which there was no room. -/
  blocked : Option TransportEvent := none
  /-- Lines that were not read yet, each with the line feed that ends it. -/
  unread : List (List UInt8) := []
  unfinished : List UInt8 := []
  ending : StreamEnd := .ahead
  reading : Bool := true
  fault : Option String := none

namespace StreamSource

/-! ## The reader -/

def stop (s : StreamSource) (fault : String) : StreamSource :=
  { s with reading := false, fault := some fault }

def accept (s : StreamSource) (event : TransportEvent) : StreamSource :=
  if s.buffer.length < streamCapacity then
    { s with buffer := s.buffer ++ [event], fault := none }
  else { s with blocked := some event, fault := none }

/-- One line. A malformed one is passed over, one that is no text ends the reading. -/
def takeLine (s : StreamSource) (line : List UInt8) : StreamSource :=
  match Text.decodeUtf8 line with
  | .error e => s.stop ("Read error: " ++ e.message)
  | .ok cs =>
      match Recording.readLine cs with
      | none => s
      | some (.ok event) => s.accept event
      | some (.error _) => { s with fault := some "Parse error" }

def takeLines (s : StreamSource) : List (List UInt8) -> StreamSource
  | [] => { s with unread := [] }
  | line :: rest =>
      if !s.reading || s.blocked.isSome then { s with unread := line :: rest }
      else (s.takeLine line).takeLines rest

def finish (s : StreamSource) : StreamSource :=
  if !s.reading || s.blocked.isSome then s
  else
    match s.ending with
    | .ahead => s
    | .closed => s.stop "Connection closed"
    | .failed message => s.stop ("Read error: " ++ message)

def unblock (s : StreamSource) : StreamSource :=
  match s.blocked with
  | some event =>
      if s.buffer.length < streamCapacity then
        { s with buffer := s.buffer ++ [event], blocked := none }
      else s
  | none => s

def work (s : StreamSource) : StreamSource :=
  let s := s.unblock
  (s.takeLines s.unread).finish

/-! ## The bytes -/

def lineFeed : UInt8 := 10

/-- More bytes arrive. Nothing comes after an end. -/
def feed (s : StreamSource) (bytes : List UInt8) : StreamSource :=
  if s.ending = .ahead then
    let pieces := Text.splitAll lineFeed (s.unfinished ++ bytes)
    { s with
      unread := s.unread ++ pieces.dropLast.map (· ++ [lineFeed])
      unfinished := pieces.getLast?.getD [] }
  else s

/-- The bytes end. A last line without a line feed is a line. -/
def close (s : StreamSource) : StreamSource :=
  if s.ending = .ahead then
    let last := if s.unfinished = [] then [] else [s.unfinished]
    { s with unread := s.unread ++ last, unfinished := [], ending := .closed }
  else s

/-- Reading fails behind the bytes that have arrived; a line that is not finished is lost. -/
def fail (s : StreamSource) (message : String) : StreamSource :=
  if s.ending = .ahead then { s with unfinished := [], ending := .failed message } else s

/-! ## Polling -/

def poll (s : StreamSource) : Option TransportEvent × StreamSource :=
  match s.buffer with
  | event :: rest => (some event, { s with buffer := rest })
  | [] =>
      if s.reading then (none, s)
      else (none, { s with fault := some (s.fault.getD "Stream disconnected") })

instance : EventSource StreamSource where
  poll _ := poll
  description s := "stream: " ++ s.label
  fault? := fault

end StreamSource
end RobotConsole
