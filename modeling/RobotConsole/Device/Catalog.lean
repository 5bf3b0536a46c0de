import RobotConsole.Device.Basic

/-!
# The catalog of device types

Type codes that are not in the catalog are no fault: such devices go by a
general label.
-/

namespace RobotConsole

structure DeviceLabel where
  name : String
  icon : String
  deriving DecidableEq, Repr

inductive DeviceType where
  | known (label : DeviceLabel)
  | unknown
  deriving DecidableEq, Repr

namespace DeviceType

def isKnown : DeviceType -> Bool
  | known _ => true
  | unknown => false

def name : DeviceType -> String
  | known label => label.name
  | unknown => "Unknown Device"

def icon : DeviceType -> String
  | known label => label.icon
  | unknown => "?"

def catalog : List (UInt16 × DeviceLabel) :=
  [(0x00, ⟨"Limit Switch", "⏼"⟩),
    (0x01, ⟨"Line Follower", "≋"⟩),
    (0x02, ⟨"Battery Buzzer", "⚡"⟩),
    (0x03, ⟨"Servo Controller", "⟳"⟩),
    (0x04, ⟨"Polar Bear", "◉"⟩),
    (0x05, ⟨"Koala Bear", "◎"⟩),
    (0x07, ⟨"Yogi Bear", "⊙"⟩),
    (0x0a, ⟨"RFID", "⌁"⟩),
    (0x0c, ⟨"Motor Controller", "⚙"⟩)]

def ofCode (code : UInt16) : DeviceType :=
  match catalog.lookup code with
  | some label => known label
  | none => unknown

end DeviceType

def PeripheralId.type (id : PeripheralId) : DeviceType :=
  match id.kind with
  | .gamepad => .known ⟨"Gamepad", "🎮"⟩
  | .smartDevice => .ofCode id.device.typeCode

end RobotConsole
