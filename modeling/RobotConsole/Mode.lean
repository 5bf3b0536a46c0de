/-!
# Run modes and alliances
-/

namespace RobotConsole

inductive Mode where
  | auto
  | teleop
  | idle
  | emergencyStop
  deriving DecidableEq, Repr, Inhabited

namespace Mode

def name : Mode -> String
  | auto => "auto"
  | teleop => "teleop"
  | idle => "idle"
  | emergencyStop => "estop"

def label : Mode -> String
  | auto => "Autonomous"
  | teleop => "Teleop"
  | idle => "Idle"
  | emergencyStop => "E-Stop"

/-- Whether a program runs in this mode. -/
def isActive : Mode -> Bool
  | auto => true
  | teleop => true
  | _ => false

end Mode

inductive Alliance where
  | blue
  | gold
  deriving DecidableEq, Repr, Inhabited

namespace Alliance

def name : Alliance -> String
  | blue => "blue"
  | gold => "gold"

def label : Alliance -> String
  | blue => "Blue"
  | gold => "Gold"

end Alliance
end RobotConsole
