import RobotConsole.Json.Basic
import RobotConsole.Text.Lines

/-!
# Layers of settings

Settings come in layers, each of them values under names. A later layer is laid
over the earlier ones key by key: objects are merged, anything else is replaced.
A name may have points in it, and then leads into nested objects.
-/

namespace RobotConsole

namespace Json

/-- The value under a name; of several, the last. -/
def member? (name : String) : Json -> Option Json
  | object members => members.reverse.lookup name
  | _ => none

def members : Json -> List (String × Json)
  | object members => members
  | _ => []

def setMember (name : String) (value : Json) (members : List (String × Json)) :
    List (String × Json) :=
  members.filter (fun member => member.1 ≠ name) ++ [(name, value)]

mutual

def laidOver (old : Json) : Json -> Json
  | object members => object (layMembers old.members members)
  | value => value

def layMembers (old : List (String × Json)) : List (String × Json) -> List (String × Json)
  | [] => old
  | (name, value) :: rest =>
      let merged := laidOver ((old.lookup name).getD null) value
      layMembers (setMember name merged old) rest

end

/-- A value laid over the one at the end of a path. -/
def layAt (old value : Json) : List String -> Json
  | [] => laidOver old value
  | name :: path =>
      object (setMember name (layAt ((old.member? name).getD null) value path) old.members)

end Json

abbrev SettingLayer := List (String × Json)

namespace SettingLayer

def isPathChar (c : Char) : Bool :=
  c.isAlphanum || c = '_' || c = '-'

/-- The path that a name stands for: its parts between the points, if all of them are words, and
the name itself otherwise. -/
def path (name : String) : List String :=
  let parts := Text.splitAll '.' name.toList
  if parts.all fun part => part ≠ [] && part.all isPathChar then parts.map String.ofList
  else [name]

def layOver (old : Json) (layer : SettingLayer) : Json :=
  layer.foldl (fun old entry => old.layAt entry.2 (path entry.1)) old

/-- All layers together, the first one lowest. -/
def merge (layers : List SettingLayer) : Json :=
  layers.foldl layOver (.object [])

end SettingLayer
end RobotConsole
