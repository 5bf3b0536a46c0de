import RobotConsole.Source.Basic

/-!
# Supplies of events

A source whose events and faults are set from outside, for rehearsals.
-/

namespace RobotConsole

structure SupplySource where
  label : String
  queue : List TransportEvent := []
  fault : Option String := none

namespace SupplySource

def send (s : SupplySource) (event : TransportEvent) : SupplySource :=
  { s with queue := s.queue ++ [event] }

def poll (s : SupplySource) : Option TransportEvent × SupplySource :=
  match s.queue with
  | event :: rest => (some event, { s with queue := rest })
  | [] => (none, s)

instance : EventSource SupplySource where
  poll _ := poll
  description := label
  fault? := fault

end SupplySource
end RobotConsole
