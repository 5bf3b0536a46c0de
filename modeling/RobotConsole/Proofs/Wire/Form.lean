import RobotConsole.Proofs.Json.Indented
import RobotConsole.Proofs.Wire.Reading

/-!
# The JSON form of a reading

What is read back of a reading that was written as JSON: the same values in the same places, a
double up to half a unit in the last place, and `null` for a float that is not finite.
-/

namespace RobotConsole
namespace Reading

mutual

/-- The value is the reading, as JSON has it. -/
inductive HasForm : Reading -> Json -> Prop where
  | null : HasForm null .null
  | bool (b : Bool) : HasForm (bool b) (.bool b)
  | int (n : Int) : HasForm (int n) (.integer n)
  | finite {x y : Float} (rereads : Json.Draft.Rereads x y) : HasForm (float x) (.float y)
  | notFinite {x : Float} (other : Numeric.isFinite x = false) : HasForm (float x) .null
  | text (s : String) : HasForm (text s) (.string s)
  | list {items : List Reading} {values : List Json} (each : ItemsHaveForm items values) :
      HasForm (list items) (.array values)
  | map {entries : List (String × Reading)} {members : List (String × Json)}
      (each : EntriesHaveForm entries members) : HasForm (map entries) (.object members)

inductive ItemsHaveForm : List Reading -> List Json -> Prop where
  | nil : ItemsHaveForm [] []
  | cons {item : Reading} {value : Json} {items : List Reading} {values : List Json}
      (first : HasForm item value) (others : ItemsHaveForm items values) :
      ItemsHaveForm (item :: items) (value :: values)

inductive EntriesHaveForm : List (String × Reading) -> List (String × Json) -> Prop where
  | nil : EntriesHaveForm [] []
  | cons {key : String} {r : Reading} {value : Json} {entries : List (String × Reading)}
      {members : List (String × Json)} (first : HasForm r value)
      (others : EntriesHaveForm entries members) :
      EntriesHaveForm ((key, r) :: entries) ((key, value) :: members)

end

mutual

theorem hasForm_reread : forall r : Reading, HasForm r r.toJson.reread
  | .null => .null
  | .bool b => .bool b
  | .int n => .int n
  | .float x => by
      show HasForm (float x) (if Numeric.isFinite x then _ else _)
      by_cases finite : Numeric.isFinite x
      · rw [if_pos finite]
        exact .finite (Json.Draft.rereads_reread finite)
      · rw [if_neg finite]
        exact .notFinite (eq_false_of_ne_true finite)
  | .text s => .text s
  | .list items => .list (itemsHaveForm_reread items)
  | .map entries => .map (entriesHaveForm_reread entries)

theorem itemsHaveForm_reread : forall items : List Reading,
    ItemsHaveForm items (Json.rereadItems (itemsToJson items))
  | [] => .nil
  | item :: items => .cons (hasForm_reread item) (itemsHaveForm_reread items)

theorem entriesHaveForm_reread : forall entries : List (String × Reading),
    EntriesHaveForm entries (Json.rereadMembers (entriesToJson entries))
  | [] => .nil
  | (_, r) :: entries => .cons (hasForm_reread r) (entriesHaveForm_reread entries)

end

theorem sized_toJson {r : Reading} (sound : r.Sound) : r.toJson.Sized := by
  induction sound with
  | null => exact .null
  | bool b => exact .bool b
  | @int n fits =>
      unfold Numeric.fitsInt64 at fits
      simp only [Bool.and_eq_true, decide_eq_true_eq] at fits
      exact .integer fits.1 (fits.2.trans (by decide))
  | float x => exact .float x
  | text s => exact .string s
  | list all ih =>
      apply Json.Sized.array
      intro value mem
      obtain ⟨r, given, rfl⟩ := mem_itemsToJson mem
      exact ih r given
  | map ascending all ih =>
      apply Json.Sized.object
      intro name value mem
      obtain ⟨r, given, rfl⟩ := mem_entriesToJson mem
      exact ih name r given

end Reading
end RobotConsole
