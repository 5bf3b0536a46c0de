import RobotConsole.Proofs.Dict.Build
import RobotConsole.Proofs.Json.Text
import RobotConsole.Wire.Reading

/-!
# Readings and their JSON

A reading that can be held is what its JSON is read as, and every JSON value is read as a
reading that can be held, nested no deeper than the value.
-/

namespace RobotConsole
namespace Reading

/-- Readings as a controller holds them: whole numbers of 64 bits, and no key of a record twice. -/
inductive Sound : Reading -> Prop where
  | null : Sound null
  | bool (b : Bool) : Sound (bool b)
  | int {n : Int} (fits : Numeric.fitsInt64 n) : Sound (int n)
  | float (x : Float) : Sound (float x)
  | text (s : String) : Sound (text s)
  | list {items : List Reading} (all : forall item, item ∈ items -> Sound item) :
      Sound (list items)
  | map {entries : List (String × Reading)} (ascending : Dict.Ascending entries)
      (all : forall name value, (name, value) ∈ entries -> Sound value) : Sound (map entries)

/-- There is no float in the reading. -/
inductive FloatFree : Reading -> Prop where
  | null : FloatFree null
  | bool (b : Bool) : FloatFree (bool b)
  | int (n : Int) : FloatFree (int n)
  | text (s : String) : FloatFree (text s)
  | list {items : List Reading} (all : forall item, item ∈ items -> FloatFree item) :
      FloatFree (list items)
  | map {entries : List (String × Reading)}
      (all : forall name value, (name, value) ∈ entries -> FloatFree value) :
      FloatFree (map entries)

/-! ## From readings to JSON and back -/

theorem itemsToJson_eq (items : List Reading) : itemsToJson items = items.map toJson := by
  induction items with
  | nil => rfl
  | cons item rest ih => exact congrArg (toJson item :: ·) ih

theorem entriesToJson_eq (entries : List (String × Reading)) :
    entriesToJson entries = entries.map fun (name, value) => (name, toJson value) := by
  induction entries with
  | nil => rfl
  | cons entry rest ih => exact congrArg ((entry.1, toJson entry.2) :: ·) ih

theorem ofItems_eq (items : List Json) : ofItems items = items.map ofJson := by
  induction items with
  | nil => rfl
  | cons item rest ih => exact congrArg (ofJson item :: ·) ih

theorem ofMembers_eq (members : List (String × Json)) :
    ofMembers members = members.map fun (name, value) => (name, ofJson value) := by
  induction members with
  | nil => rfl
  | cons member rest ih => exact congrArg ((member.1, ofJson member.2) :: ·) ih

section

variable {name : String} {value : Json} {r : Reading}

theorem mem_itemsToJson {items : List Reading} (mem : value ∈ itemsToJson items) :
    exists r, r ∈ items ∧ value = r.toJson := by
  rw [itemsToJson_eq] at mem
  obtain ⟨r, given, rfl⟩ := List.mem_map.1 mem
  exact ⟨r, given, rfl⟩

theorem mem_entriesToJson {entries : List (String × Reading)}
    (mem : (name, value) ∈ entriesToJson entries) :
    exists r, (name, r) ∈ entries ∧ value = r.toJson := by
  rw [entriesToJson_eq] at mem
  obtain ⟨⟨_, r⟩, given, same⟩ := List.mem_map.1 mem
  cases same
  exact ⟨r, given, rfl⟩

theorem mem_ofItems {items : List Json} (mem : r ∈ ofItems items) :
    exists j, j ∈ items ∧ r = ofJson j := by
  rw [ofItems_eq] at mem
  obtain ⟨j, given, rfl⟩ := List.mem_map.1 mem
  exact ⟨j, given, rfl⟩

theorem mem_ofMembers {members : List (String × Json)} (mem : (name, r) ∈ ofMembers members) :
    exists j, (name, j) ∈ members ∧ r = ofJson j := by
  rw [ofMembers_eq] at mem
  obtain ⟨⟨_, j⟩, given, same⟩ := List.mem_map.1 mem
  cases same
  exact ⟨j, given, rfl⟩

end

theorem ofJson_toJson {r : Reading} (sound : r.Sound) : ofJson r.toJson = r := by
  induction sound with
  | null => rfl
  | bool b => rfl
  | int fits => exact if_pos fits
  | float x => rfl
  | text s => rfl
  | @list items all ih =>
      show list (ofItems (itemsToJson items)) = _
      rw [ofItems_eq, itemsToJson_eq, List.map_map]
      congr 1
      exact (List.map_congr_left ih).trans (List.map_id items)
  | @map entries ascending all ih =>
      show map (Dict.ofList (ofMembers (entriesToJson entries))) = _
      have same : ofMembers (entriesToJson entries) = entries := by
        rw [ofMembers_eq, entriesToJson_eq, List.map_map]
        refine (List.map_congr_left ?_).trans (List.map_id entries)
        rintro ⟨name, value⟩ mem
        exact congrArg (name, ·) (ih name value mem)
      rw [same, ascending.ofList_eq]

theorem plain_toJson {r : Reading} (sound : r.Sound) (free : r.FloatFree) :
    Json.Plain r.toJson := by
  induction sound with
  | null => exact .null
  | bool b => exact .bool b
  | @int n fits =>
      unfold Numeric.fitsInt64 at fits
      simp only [Bool.and_eq_true, decide_eq_true_eq] at fits
      exact .integer fits.1 (Int.lt_trans fits.2 (by decide))
  | float x => cases free
  | text s => exact .string s
  | @list items all ih =>
      cases free with
      | list free =>
          apply Json.Plain.array
          intro item mem
          obtain ⟨r, given, rfl⟩ := mem_itemsToJson mem
          exact ih r given (free r given)
  | @map entries ascending all ih =>
      cases free with
      | map free =>
          apply Json.Plain.object
          intro name value mem
          obtain ⟨r, given, rfl⟩ := mem_entriesToJson mem
          exact ih name r given (free name r given)

/-! ## Readings of JSON values -/

theorem sound_ofJson (j : Json) : (ofJson j).Sound := by
  induction j using Json.induction with
  | null => exact .null
  | bool b => exact .bool b
  | integer n =>
      unfold ofJson
      split
      · exact .int ‹_›
      · exact .float _
  | float x => exact .float x
  | string s => exact .text s
  | array items ih =>
      apply Sound.list
      intro item mem
      obtain ⟨j, given, rfl⟩ := mem_ofItems mem
      exact ih j given
  | object members ih =>
      apply Sound.map
      · exact Dict.ascending_ofList _
      · intro name value mem
        obtain ⟨j, given, rfl⟩ := mem_ofMembers (Dict.mem_of_mem_ofList mem)
        exact ih name j given

theorem depth_toJson_ofJson {j : Json} {n : Nat} (shallow : j.depth ≤ n) :
    (ofJson j).toJson.depth ≤ n := by
  induction j using Json.induction generalizing n with
  | null => exact shallow
  | bool b => exact shallow
  | integer k =>
      unfold ofJson
      split <;> exact shallow
  | float x => exact shallow
  | string s => exact shallow
  | array items ih =>
      cases n with
      | zero => exact absurd shallow Json.not_depth_array_le_zero
      | succ n =>
          have inside := Json.depth_array_le_iff.1 shallow
          apply Json.depth_array_le_iff.2
          intro item mem
          obtain ⟨r, held, rfl⟩ := mem_itemsToJson mem
          obtain ⟨j, given, rfl⟩ := mem_ofItems held
          exact ih j given (inside j given)
  | object members ih =>
      cases n with
      | zero => exact absurd shallow Json.not_depth_object_le_zero
      | succ n =>
          have inside := Json.depth_object_le_iff.1 shallow
          apply Json.depth_object_le_iff.2
          intro name value mem
          obtain ⟨r, held, rfl⟩ := mem_entriesToJson mem
          obtain ⟨j, given, rfl⟩ := mem_ofMembers (Dict.mem_of_mem_ofList held)
          exact ih name j given (inside name j given)

end Reading

namespace Wire

theorem decodeReading_toJson {r : Reading} (sound : r.Sound) :
    decodeReading (.ofJson r.toJson) = .ok r := by
  unfold decodeReading decodeValue
  rw [Json.Draft.value?_ofJson]
  exact congrArg Except.ok (Reading.ofJson_toJson sound)

end Wire
end RobotConsole
