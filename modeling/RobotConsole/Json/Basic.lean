/-!
# JSON values

The values that the console writes as JSON. The members of an object are written
in the order in which they stand.
-/

namespace RobotConsole

inductive Json where
  | null
  | bool (b : Bool)
  | integer (n : Int)
  | float (x : Float)
  | string (s : String)
  | array (items : List Json)
  | object (members : List (String × Json))
  deriving Inhabited

end RobotConsole
