import RobotConsole.History
import RobotConsole.Reading

/-!
# Timelines

The rolling history of one parameter.
-/

namespace RobotConsole

structure Sample where
  timestamp : Int
  value : Reading
  deriving Inhabited

def timelineCapacity : Nat := 50

abbrev Timeline := History timelineCapacity Sample

namespace Timeline

def plot? (t : Timeline) : Option (List (Int × Float)) :=
  t.items.mapM fun sample => sample.value.numeric?.map fun y => (sample.timestamp, y)

end Timeline
end RobotConsole
