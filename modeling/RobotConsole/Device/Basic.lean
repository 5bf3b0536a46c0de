import RobotConsole.Numeric.WholeNumber
import RobotConsole.Numeric.Words
import RobotConsole.Text.Blank

/-!
# Devices

A device is known by its kind and by a number that the controller assigns to it.
The numbers of smart devices have 88 bits: a type code, a year and a random
part, the most significant first.
-/

namespace RobotConsole

/-! ## Kinds -/

inductive DeviceKind where
  | gamepad
  | smartDevice
  deriving DecidableEq, Repr, Inhabited

namespace DeviceKind

def label : DeviceKind -> String
  | gamepad => "Gamepad"
  | smartDevice => "Smart Device"

def name : DeviceKind -> String
  | gamepad => "gamepad"
  | smartDevice => "smart-device"

def title : DeviceKind -> String
  | gamepad => "Gamepad"
  | smartDevice => "SmartDevice"

def rank : DeviceKind -> Nat
  | gamepad => 0
  | smartDevice => 1

end DeviceKind

/-! ## Device numbers -/

/-- A number of up to 128 bits. -/
structure DeviceId where
  number : Nat
  small : number < Numeric.wordSize 128 := by decide
  deriving DecidableEq, Repr

namespace DeviceId

instance : Inhabited DeviceId :=
  ⟨{ number := 0 }⟩

instance : Ord DeviceId where
  compare a b := compare a.number b.number

def ofParts (typeCode : UInt16) (year : UInt8) (random : UInt64) : DeviceId where
  number := typeCode.toNat <<< 72 + year.toNat <<< 64 + random.toNat
  small := by
    have := typeCode.toNat_lt
    have := year.toNat_lt
    have := random.toNat_lt
    simp only [Numeric.wordSize]
    omega

def typeCode (id : DeviceId) : UInt16 :=
  UInt16.ofNat (id.number >>> 72)

def year (id : DeviceId) : UInt8 :=
  UInt8.ofNat (id.number >>> 64)

def random (id : DeviceId) : UInt64 :=
  UInt64.ofNat id.number

def text (id : DeviceId) : String :=
  toString id.number

/-- The device number written in decimal digits, with blanks around it and a plus sign allowed. -/
def parse (s : String) : Except Numeric.WholeNumberError DeviceId :=
  match Numeric.readBelow (Numeric.wordSize 128) (Text.trimChars s.toList) with
  | .error e => .error e
  | .ok n => if h : n < Numeric.wordSize 128 then .ok ⟨n, h⟩ else .error .tooLarge

end DeviceId

/-! ## Peripheral identity -/

structure PeripheralId where
  kind : DeviceKind
  device : DeviceId
  deriving DecidableEq, Repr

instance : Ord PeripheralId where
  compare a b := (compare a.kind.rank b.kind.rank).then (compare a.device.number b.device.number)

end RobotConsole
