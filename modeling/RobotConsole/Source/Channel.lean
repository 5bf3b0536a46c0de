import RobotConsole.Source.Basic

/-!
# Channels

A producer within the program sends events into a channel of bounded capacity.
Every event that is accepted is delivered once, in order.
-/

namespace RobotConsole

def channelCapacity : Nat := 256

structure ChannelSource where
  label : String
  queue : List TransportEvent := []
  isOpen : Bool := true
  /-- Whether a poll has found that nothing will come any more. -/
  exhausted : Bool := false

inductive SendResult where
  | sent
  | full
  | closed
  deriving DecidableEq, Repr

namespace ChannelSource

/-- The producer's side: an event is accepted while there is room. -/
def send (c : ChannelSource) (event : TransportEvent) : ChannelSource × SendResult :=
  if !c.isOpen then (c, .closed)
  else if channelCapacity ≤ c.queue.length then (c, .full)
  else ({ c with queue := c.queue ++ [event] }, .sent)

def close (c : ChannelSource) : ChannelSource × Bool :=
  ({ c with isOpen := false }, c.isOpen)

def poll (c : ChannelSource) : Option TransportEvent × ChannelSource :=
  match c.queue with
  | event :: rest => (some event, { c with queue := rest })
  | [] => (none, if c.isOpen then c else { c with exhausted := true })

instance : EventSource ChannelSource where
  poll _ := poll
  description c := "channel: " ++ c.label
  fault? c := if c.exhausted then some "Producer closed" else none

end ChannelSource
end RobotConsole
