import RobotConsole.Proofs.Json.Grammar

/-!
# The text of a value

A value without floats that was written on one line is read back, as long as its numbers are of
up to 64 bits and it is not nested too deep.
-/

namespace RobotConsole
namespace Json

/-- Values that a reader holds as they were written. -/
inductive Plain : Json -> Prop where
  | null : Plain null
  | bool (b : Bool) : Plain (bool b)
  | integer {n : Int} (low : -(Numeric.wordSize 63 : Int) ≤ n) (high : n < Numeric.wordSize 64) :
      Plain (integer n)
  | string (s : String) : Plain (string s)
  | array {items : List Json} (all : forall item, item ∈ items -> Plain item) :
      Plain (array items)
  | object {members : List (String × Json)}
      (all : forall name value, (name, value) ∈ members -> Plain value) : Plain (object members)

theorem spells_integer {n : Int} (low : -(Numeric.wordSize 63 : Int) ≤ n)
    (high : n < Numeric.wordSize 64) : Spells (toString n).toList (integer n) := by
  rw [← Draft.Numeral.chars_ofInt n]
  exact .number (.ofInt n) (Draft.Numeral.draft_ofInt low high)

section

variable {style : FloatStyle}

theorem spells_compactItems {item : Json} {items : List Json}
    (all : forall other, other ∈ item :: items -> Spells (compactChars style other) other) :
    SpellsItems (compactItems style (item :: items)) (item :: items) := by
  induction items generalizing item with
  | nil => exact .last (all item List.mem_cons_self) (.self _)
  | cons next items ih =>
      exact .more (all item List.mem_cons_self) (.self _)
        (ih fun other mem => all other (List.mem_cons_of_mem _ mem))

theorem spells_compactMembers {member : String × Json} {members : List (String × Json)}
    (all : forall name value, (name, value) ∈ member :: members ->
      Spells (compactChars style value) value) :
    SpellsMembers (compactMembers style (member :: members)) (member :: members) := by
  induction members generalizing member with
  | nil => exact .last (.self _) (all _ _ List.mem_cons_self) (.self _)
  | cons next members ih =>
      exact .more (.self _) (all _ _ List.mem_cons_self) (.self _)
        (ih fun name value mem => all name value (List.mem_cons_of_mem _ mem))

theorem spells_compactChars (style : FloatStyle) {j : Json} (plain : Plain j) :
    Spells (compactChars style j) j := by
  induction plain with
  | null => exact .null
  | bool b => exact .bool b
  | integer low high => exact spells_integer low high
  | string s => exact .string s
  | @array items all ih =>
      cases items with
      | nil => exact .noItems blank_nil
      | cons item items => exact .array (spells_compactItems ih)
  | @object members all ih =>
      cases members with
      | nil => exact .noMembers blank_nil
      | cons member members => exact .object (spells_compactMembers ih)

end

theorem Draft.read_compactChars (style : FloatStyle) {j : Json} (plain : Plain j)
    (shallow : j.depth ≤ depthLimit) : read (compactChars style j) = (ofJson j, []) :=
  read_of_spells (spells_compactChars style plain) shallow

end Json
end RobotConsole
