import RobotConsole.Dict
import RobotConsole.Json.Basic
import RobotConsole.Numeric.FixedPlaces

/-!
# Readings

The value of a parameter as a device reports it, or of a field of a log event.
Switches, counters and axes have a number; texts, lists and records have none.
-/

namespace RobotConsole

inductive Reading where
  | null
  | bool (b : Bool)
  | int (n : Int)
  | float (x : Float)
  | text (s : String)
  | list (items : List Reading)
  | map (entries : List (String × Reading))
  deriving Inhabited

namespace Reading

/-- The number of a reading that can be plotted. -/
def numeric? : Reading -> Option Float
  | bool b => some (if b then 1.0 else 0.0)
  | int n => some (Float.ofInt n)
  | float x => if Numeric.isFinite x then some x else none
  | _ => none

def isNumeric (r : Reading) : Bool :=
  r.numeric?.isSome

mutual

def display : Reading -> String
  | null => "null"
  | bool b => if b then "true" else "false"
  | int n => toString n
  | float x => Numeric.fixedPlaces 3 x
  | text s => s
  | list items => "[" ++ displayItems items ++ "]"
  | map entries => "\x7b" ++ displayEntries entries ++ "\x7d"

def displayItems : List Reading -> String
  | [] => ""
  | [item] => display item
  | item :: rest => display item ++ ", " ++ displayItems rest

def displayEntries : List (String × Reading) -> String
  | [] => ""
  | [(key, value)] => key ++ ": " ++ display value
  | (key, value) :: rest => key ++ ": " ++ display value ++ ", " ++ displayEntries rest

end

mutual

def toJson : Reading -> Json
  | null => .null
  | bool b => .bool b
  | int n => .integer n
  | float x => .float x
  | text s => .string s
  | list items => .array (itemsToJson items)
  | map entries => .object (entriesToJson entries)

def itemsToJson : List Reading -> List Json
  | [] => []
  | item :: rest => toJson item :: itemsToJson rest

def entriesToJson : List (String × Reading) -> List (String × Json)
  | [] => []
  | (key, value) :: rest => (key, toJson value) :: entriesToJson rest

end

end Reading
end RobotConsole
