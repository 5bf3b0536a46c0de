import RobotConsole.Json.Basic
import RobotConsole.Mode
import RobotConsole.Wire.Record

/-!
# Modes and alliances on the wire
-/

namespace RobotConsole

namespace Mode

def table : List (String × Mode) :=
  [auto, teleop, idle, emergencyStop].map fun mode => (mode.name, mode)

def toJson (mode : Mode) : Json :=
  .string mode.name

end Mode

namespace Alliance

def table : List (String × Alliance) :=
  [blue, gold].map fun alliance => (alliance.name, alliance)

def toJson (alliance : Alliance) : Json :=
  .string alliance.name

end Alliance

namespace Wire

def decodeMode : Json.Draft -> Decoded Mode :=
  decodeVariant Mode.table false

def decodeAlliance : Json.Draft -> Decoded Alliance :=
  decodeVariant Alliance.table false

end Wire
end RobotConsole
