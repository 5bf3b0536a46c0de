import RobotConsole.Console.Basic

/-!
# Telemetry, log events and ticks

How the console takes what the transport delivers, and how the health of the
link follows the clock.
-/

namespace RobotConsole
namespace Console

def applyBatch (c : Console) (now : Int) (batch : TelemetryBatch) : Console :=
  let messages := c.state.peripherals.snapshotMessages batch.kind batch.samples
  ((c.sayAll messages).update fun s => s.applyBatch now batch).say
    (.debug ("Applied " ++ batch.kind.title ++ " batch of " ++ toString batch.deviceCount ++
      " devices at " ++ toString (batch.timestampOr now)))

def applyLog (c : Console) (event : LogEvent) : Console :=
  (c.sayAll (c.state.link.noteLogMessages event)).update fun s => s.applyLog event

def apply (c : Console) (now : Int) : TransportEvent -> Console
  | .telemetry batch => c.applyBatch now batch
  | .log event => c.applyLog event

def tick (c : Console) (now : Int) : Console :=
  let messages := c.state.link.tickMessages (c.state.link.tick now)
  (c.sayAll messages).update fun s => s.tick now

end Console
end RobotConsole
