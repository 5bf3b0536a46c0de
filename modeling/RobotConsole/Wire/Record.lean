import RobotConsole.Json.Draft
import RobotConsole.Wire.Error

/-!
# Decoding by shape

How scalars, variants and records are taken from a draft. Members are taken in
the order of the text, and the first fault is the one reported, be it one of the
text or one of a value.
-/

namespace RobotConsole
namespace Wire

open Json (Draft Ending)

/-! ## Scalars -/

def decodeString : Draft -> Decoded String
  | .string s => .ok s
  | _ => .error .malformed

def decodeBool : Draft -> Decoded Bool
  | .bool b => .ok b
  | _ => .error .malformed

def decodeInt (low high : Int) : Draft -> Decoded Int
  | .integer n => if low ≤ n ∧ n < high then .ok n else .error .malformed
  | _ => .error .malformed

def decodeInt64 : Draft -> Decoded Int :=
  decodeInt (-(Numeric.wordSize 63 : Int)) (Numeric.wordSize 63)

def decodeOption {α : Type} (decode : Draft -> Decoded α) : Draft -> Decoded (Option α)
  | .null => .ok none
  | d => (decode d).map some

/-! ## Variants without data -/

def findVariant {α : Type} (table : List (String × α)) (name : String) : Decoded α :=
  match table.lookup name with
  | some a => .ok a
  | none => .error (.unknownVariant name (table.map Prod.fst))

/-- What may stand for the data of a variant that has none. In a value that was set aside
before its type was known, an empty object does as well. -/
def isUnit (setAside : Bool) : Draft -> Bool
  | .null => true
  | .object [] .closed => setAside
  | _ => false

/-- A variant is written as its name, or as an object with the name as its only member. -/
def decodeVariant {α : Type} (table : List (String × α)) (setAside : Bool) : Draft -> Decoded α
  | .string name => findVariant table name
  | .object [] _ => .error .malformed
  | .object ((name, value) :: rest) ending =>
      if setAside ∧ rest ≠ [] then .error .malformed
      else do
        let a ← findVariant table name
        if isUnit setAside value ∧ rest.isEmpty ∧ ending = .closed then .ok a
        else .error .malformed
  | _ => .error .malformed

/-! ## Records -/

/-- A value that no one asks for may be anything, as long as it is JSON. -/
def skip (d : Draft) : Decoded Unit :=
  if d.isBroken then .error .malformed else .ok ()

def expectClosed (ending : Ending) : Decoded Unit :=
  if ending = .closed then .ok () else .error .malformed

def foldMembers {σ : Type} (step : σ -> String -> Draft -> Decoded σ) :
    σ -> List (String × Draft) -> Ending -> Decoded σ
  | state, [], ending => do
      expectClosed ending
      .ok state
  | state, (name, value) :: rest, ending => do
      let state ← step state name value
      foldMembers step state rest ending

/-- The members of a record. It may also be written as an array of its first fields, in order
and at least `required` of them. -/
def recordMembers (fields : List String) (required : Nat) :
    Draft -> Decoded (List (String × Draft) × Ending)
  | .object members ending => .ok (members, ending)
  | .array items ending =>
      let complete := required ≤ items.length ∧ items.length ≤ fields.length
      .ok (fields.zip items, if complete then ending else .broken)
  | _ => .error .malformed

def setOnce {α : Type} (name : String) (old : Option α) (decode : Draft -> Decoded α)
    (value : Draft) : Decoded (Option α) :=
  match old with
  | some _ => .error (.duplicateField name)
  | none => (decode value).map some

/-! ## Texts -/

def decodeChars {α : Type} (decode : Draft -> Decoded α) (cs : List Char) : Decoded α := do
  let (draft, rest) := Draft.read cs
  let a ← decode draft
  if Draft.skipSpace rest = [] then .ok a else .error .malformed

def decodeText {α : Type} (decode : Draft -> Decoded α) (s : String) : Decoded α :=
  decodeChars decode s.toList

end Wire
end RobotConsole
