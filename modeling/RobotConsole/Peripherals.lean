import RobotConsole.Device.Catalog
import RobotConsole.Message
import RobotConsole.Telemetry
import RobotConsole.Timeline

/-!
# Connected peripherals

Snapshots are merged into the timelines of the parameters of each device. A
snapshot says all about the devices of its kind, so those that it does not
mention are removed.
-/

namespace RobotConsole

structure Peripheral where
  id : PeripheralId
  parameters : Dict String Timeline := []

namespace Peripheral

def parameter? (p : Peripheral) (name : String) : Option Timeline :=
  Dict.find? name p.parameters

def record (p : Peripheral) (timestamp : Int) (readings : ParameterReadings) : Peripheral :=
  { p with
    parameters := readings.foldl (fun parameters reading =>
      Dict.alter reading.1 (fun old => (old.getD {}).push ⟨timestamp, reading.2⟩) parameters)
      p.parameters }

end Peripheral

structure Peripherals where
  entries : Dict PeripheralId Peripheral := []

namespace Peripherals

/-- All peripherals, gamepads first, each kind in the order of the device numbers. -/
def sorted (ps : Peripherals) : List Peripheral :=
  ps.entries.map Prod.snd

def ofKind (ps : Peripherals) (kind : DeviceKind) : List Peripheral :=
  ps.sorted.filter fun p => p.id.kind = kind

def get? (ps : Peripherals) (id : PeripheralId) : Option Peripheral :=
  Dict.find? id ps.entries

def size (ps : Peripherals) : Nat :=
  ps.entries.length

def isEmpty (ps : Peripherals) : Bool :=
  ps.entries.isEmpty

/-! ## Snapshots -/

def mentions (samples : SampleMap) (device : DeviceId) : Bool :=
  (Dict.find? device samples).isSome

def merge (ps : Peripherals) (kind : DeviceKind) (timestamp : Int) (samples : SampleMap) :
    Peripherals :=
  ⟨samples.foldl (fun entries (device, readings) =>
    let id : PeripheralId := ⟨kind, device⟩
    Dict.alter id (fun old => (old.getD ⟨id, []⟩).record timestamp readings) entries) ps.entries⟩

/-- Without the devices of a kind that a snapshot of that kind does not mention. -/
def evict (ps : Peripherals) (kind : DeviceKind) (samples : SampleMap) : Peripherals :=
  ⟨ps.entries.filter fun entry => entry.1.kind ≠ kind || mentions samples entry.1.device⟩

def applySnapshot (ps : Peripherals) (kind : DeviceKind) (timestamp : Int) (samples : SampleMap) :
    Peripherals :=
  (ps.merge kind timestamp samples).evict kind samples

/-- Whether a snapshot counts as an arrival for the health of the link. -/
def countsAsArrival (kind : DeviceKind) (disconnect : Bool) : Bool :=
  kind ≠ .gamepad && !disconnect

def snapshotMessages (ps : Peripherals) (kind : DeviceKind) (samples : SampleMap) :
    List Message :=
  let name (device : DeviceId) := kind.title ++ " " ++ device.text
  let brought := samples.filter fun entry => (ps.get? ⟨kind, entry.1⟩).isNone
  let taken := (ps.ofKind kind).filter fun p => !mentions samples p.id.device
  (brought.map fun entry => .debug ("Peripheral connected: " ++ name entry.1)) ++
    taken.map fun p => .debug ("Peripheral disconnected: " ++ name p.id.device)

end Peripherals
end RobotConsole
