import RobotConsole.Settings.Schema
import RobotConsole.Wire.Duration

/-!
# Settings on the wire

Settings as JSON. A section or slot that is left out keeps its default, one that
nobody knows is passed over, and none may be given twice.
-/

namespace RobotConsole

namespace Wire

open Json (Draft)

def decodeSetting : (type : SettingType) -> Draft -> Decoded type.Value
  | .duration => decodeDuration
  | .flag => decodeBool
  | .text => decodeString
  | .port => fun d => (decodeInt 0 (Numeric.wordSize 16) d).map Int.toNat

/-! ## Records whose fields are all optional -/

abbrev OptionalField (σ : Type) := String × (σ -> Draft -> Decoded σ)

/-- One member of a record, of which the members with the names `seen` came before. -/
def OptionalField.step {σ : Type} (fields : List (OptionalField σ)) :
    List String × σ -> String -> Draft -> Decoded (List String × σ)
  | (seen, record), name, value =>
      match fields.lookup name with
      | none => do
          skip value
          .ok (seen, record)
      | some update =>
          if name ∈ seen then .error (.duplicateField name)
          else do .ok (name :: seen, ← update record value)

def decodeFields {σ : Type} (fields : List (OptionalField σ)) (record : σ) (d : Draft) :
    Decoded σ := do
  let (members, ending) ← recordMembers (fields.map Prod.fst) 0 d
  let (_, record) ← foldMembers (OptionalField.step fields) ([], record) members ending
  .ok record

/-! ## Settings -/

def slotField (slot : SettingSlot) : OptionalField Settings :=
  (slot.name, fun settings value => do .ok (slot.set settings (← decodeSetting slot.type value)))

def sectionField (part : SettingSection) : OptionalField Settings :=
  (part.name, decodeFields (part.slots.map slotField))

def decodeSettings (d : Draft) : Decoded Settings :=
  decodeFields (Settings.sections.map sectionField) {} d

end Wire
end RobotConsole
