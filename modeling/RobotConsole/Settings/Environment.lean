import RobotConsole.Numeric.FloatLiteral
import RobotConsole.Numeric.WholeNumber
import RobotConsole.Settings.Layer
import RobotConsole.Settings.Schema

/-!
# Settings in the environment

A variable is a setting if its name starts with the word for this program. Two
underscores in the rest of the name separate a section from a slot; letter case
is not looked at.
-/

namespace RobotConsole

abbrev Environment := List (String × String)

namespace Environment

def mark : List Char :=
  "robowatch_".toList

/-- Two underscores in a row become a point. -/
def joinParts : List Char -> List Char
  | [] => []
  | '_' :: '_' :: rest => '.' :: joinParts rest
  | c :: rest => c :: joinParts rest

def settingName? (name : String) : Option String :=
  let lower := name.toList.map Char.toLower
  if mark.isPrefixOf lower then some (String.ofList (joinParts (lower.drop mark.length))) else none

def variableName (part : SettingSection) (slot : SettingSlot) : String :=
  let word := mark ++ part.name.toList ++ '_' :: '_' :: slot.name.toList
  String.ofList (word.map Char.toUpper)

def variableNames : List String :=
  Settings.sections.flatMap fun part => part.slots.map (variableName part)

/-- What a text is taken for: a truth value, a whole number, a float, or else a text. -/
def typed (s : String) : Json :=
  let cs := s.toList
  let word := cs.map Char.toLower
  if word = "true".toList then .bool true
  else if word = "false".toList then .bool false
  else
    match Numeric.readSigned? 64 cs with
    | some n => .integer n
    | none =>
        match Numeric.FloatLiteral.read cs with
        | .ok literal => .float literal.value
        | .error _ => .string s

def layer (env : Environment) : SettingLayer :=
  env.filterMap fun (name, s) => (settingName? name).map fun setting => (setting, typed s)

end Environment
end RobotConsole
