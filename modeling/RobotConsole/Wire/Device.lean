import RobotConsole.Device.Basic
import RobotConsole.Json.Basic
import RobotConsole.Wire.Record

/-!
# Devices on the wire

Device numbers have more digits than JSON readers commonly keep, so they are
written as strings of decimal digits. Numbers of up to 64 bits are accepted as
well.
-/

namespace RobotConsole

namespace DeviceKind

def table : List (String × DeviceKind) :=
  [gamepad, smartDevice].map fun kind => (kind.name, kind)

def toJson (kind : DeviceKind) : Json :=
  .string kind.name

end DeviceKind

def DeviceId.toJson (id : DeviceId) : Json :=
  .string id.text

namespace Wire

def decodeKind (setAside : Bool := false) : Json.Draft -> Decoded DeviceKind :=
  decodeVariant DeviceKind.table setAside

def deviceOfText (s : String) : Decoded DeviceId :=
  match DeviceId.parse s with
  | .ok id => .ok id
  | .error e => .error (.wholeNumber e)

def decodeDeviceId : Json.Draft -> Decoded DeviceId
  | .string s => deviceOfText s
  | .integer n =>
      if n < 0 then .error .negativeDevice
      else if h : n.toNat < Numeric.wordSize 128 then .ok ⟨n.toNat, h⟩
      else .error .malformed
  | _ => .error .malformed

end Wire
end RobotConsole
