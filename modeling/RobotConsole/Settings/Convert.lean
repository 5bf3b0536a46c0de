import RobotConsole.Settings.Layer
import RobotConsole.Settings.Schema
import RobotConsole.Wire.Duration

/-!
# Settings from values

How merged layers become settings. What a slot needs is made from whatever value
is there, as far as that makes sense: a text from a number, a truth value from a
word. Slots that are missing keep their defaults.
-/

namespace RobotConsole

inductive ConvertError where
  | unusable (name : String)
  | duration (error : WireError)
  deriving DecidableEq, Repr

namespace Settings

def trueWords : List String := ["true", "on", "yes"]

def falseWords : List String := ["false", "off", "no"]

def lowercase (s : String) : String :=
  String.ofList (s.toList.map Char.toLower)

def flagOf? : Json -> Option Bool
  | .bool b => some b
  | .integer n => some (n ≠ 0)
  | .float x => some (x != 0.0)
  | .string s =>
      let word := lowercase s
      if word = "1" ∨ word ∈ trueWords then some true
      else if word = "0" ∨ word ∈ falseWords then some false
      else none
  | _ => none

def textOf? : Json -> Option String
  | .string s => some s
  | .bool b => some (if b then "true" else "false")
  | .integer n => some (toString n)
  | .float x => some (Numeric.plainText x)
  | _ => none

/-- The natural of 64 bits nearest to `x`, a half rounded up; zero for a NaN. -/
def nearestNat (x : Float) : Nat :=
  match Numeric.Binary64.ofFloat x with
  | .nan => 0
  | .infinite negative => if negative then 0 else Numeric.wordSize 64 - 1
  | .finite parts =>
      let (num, den) := parts.quotient
      if parts.negative then 0 else min ((2 * num + den) / (2 * den)) (Numeric.wordSize 64 - 1)

def naturalOf? : Json -> Option Nat
  | .integer n => if 0 ≤ n then some n.toNat else none
  | .bool b => some (if b then 1 else 0)
  | .float x => some (nearestNat x)
  | .string s =>
      let word := lowercase s
      if word ∈ trueWords then some 1
      else if word ∈ falseWords then some 0
      else (Numeric.readBelow (Numeric.wordSize 64) s.toList).toOption
  | _ => none

/-- Of a number that is too large, a port keeps the low 16 bits. -/
def portOf? (value : Json) : Option Nat :=
  (naturalOf? value).map (· % Numeric.wordSize 16)

def convertValue (name : String) : (type : SettingType) -> Json -> Except ConvertError type.Value
  | .duration, value => (Wire.durationOfJson value).mapError .duration
  | .flag, value =>
      match flagOf? value with
      | some b => .ok b
      | none => .error (.unusable name)
  | .text, value =>
      match textOf? value with
      | some s => .ok s
      | none => .error (.unusable name)
  | .port, value =>
      match portOf? value with
      | some n => .ok n
      | none => .error (.unusable name)

/-- The values under the given names: those of an object, or the items of an array in order. -/
def fieldsOf? (names : List String) : Json -> Option (List (String × Json))
  | .object members => some members
  | .array items => some (names.zip items)
  | _ => none

def convertSlot (fields : List (String × Json)) (s : Settings) (slot : SettingSlot) :
    Except ConvertError Settings :=
  match fields.lookup slot.name with
  | none => .ok s
  | some value => do .ok (slot.set s (← convertValue slot.name slot.type value))

def convertSection (fields : List (String × Json)) (s : Settings) (part : SettingSection) :
    Except ConvertError Settings :=
  match fields.lookup part.name with
  | none => .ok s
  | some value =>
      match fieldsOf? (part.slots.map SettingSlot.name) value with
      | none => .error (.unusable part.name)
      | some inner => part.slots.foldlM (convertSlot inner) s

def convert (merged : Json) : Except ConvertError Settings :=
  match fieldsOf? (sections.map SettingSection.name) merged with
  | none => .error (.unusable "")
  | some fields => sections.foldlM (convertSection fields) {}

end Settings
end RobotConsole
