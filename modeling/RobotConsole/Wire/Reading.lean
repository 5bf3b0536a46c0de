import RobotConsole.Reading
import RobotConsole.Wire.Record

/-!
# Readings on the wire

Every JSON value is a reading. Whole numbers of up to 64 bits with a sign stay
whole; every other number is a float.
-/

namespace RobotConsole

namespace Reading

mutual

def ofJson : Json -> Reading
  | .null => null
  | .bool b => bool b
  | .integer n => if Numeric.fitsInt64 n then int n else float (Float.ofInt n)
  | .float x => float x
  | .string s => text s
  | .array items => list (ofItems items)
  | .object members => map (Dict.ofList (ofMembers members))

def ofItems : List Json -> List Reading
  | [] => []
  | item :: rest => ofJson item :: ofItems rest

def ofMembers : List (String × Json) -> List (String × Reading)
  | [] => []
  | (name, value) :: rest => (name, ofJson value) :: ofMembers rest

end

end Reading

namespace Wire

def decodeValue (d : Json.Draft) : Decoded Json :=
  match d.value? with
  | some value => .ok value
  | none => .error .malformed

def decodeReading (d : Json.Draft) : Decoded Reading :=
  (decodeValue d).map Reading.ofJson

end Wire
end RobotConsole
