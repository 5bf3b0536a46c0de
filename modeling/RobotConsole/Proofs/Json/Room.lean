import RobotConsole.Proofs.Json.Values

/-!
# The room of a reader

A reader opens no more levels than it has room for: what it reads is nested no deeper, and so are
the values that are held of it.
-/

namespace RobotConsole
namespace Json
namespace Draft

/-- The draft opens no more than so many levels. -/
inductive Within : Nat -> Draft -> Prop where
  | null {n : Nat} : Within n null
  | bool {n : Nat} (b : Bool) : Within n (bool b)
  | integer {n : Nat} (k : Int) : Within n (integer k)
  | float {n : Nat} (x : Float) : Within n (float x)
  | string {n : Nat} (s : String) : Within n (string s)
  | array {n : Nat} {items : List Draft} (ending : Ending)
      (all : forall item, item ∈ items -> Within n item) : Within (n + 1) (array items ending)
  | object {n : Nat} {members : List (String × Draft)} (ending : Ending)
      (all : forall name value, (name, value) ∈ members -> Within n value) :
      Within (n + 1) (object members ending)
  | unreadable {n : Nat} : Within n unreadable
  | broken {n : Nat} : Within n broken

/-! ## What is read -/

theorem within_draft (n : Nat) (token : NumberToken) : Within n token.draft := by
  have double : Within n ((token.double?.map float).getD unreadable) := by
    cases token.double? with
    | none => exact .unreadable
    | some x => exact .float x
  unfold NumberToken.draft
  dsimp only
  split
  · exact double
  · split
    · split
      · exact .integer _
      · exact double
    · split
      · exact .integer _
      · exact double

section

variable {room : Nat} {ending : Ending}

theorem within_array {items : List Draft} (all : forall item, item ∈ items -> Within (room - 1) item) :
    Within room (within room (array items ending)) := by
  cases room with
  | zero =>
      unfold within
      split
      · exact .broken
      · exact .unreadable
  | succ room =>
      unfold within
      split
      · exact .array ending all
      · exact .array ending all

theorem within_object {members : List (String × Draft)}
    (all : forall name value, (name, value) ∈ members -> Within (room - 1) value) :
    Within room (within room (object members ending)) := by
  cases room with
  | zero =>
      unfold within
      split
      · exact .broken
      · exact .unreadable
  | succ room =>
      unfold within
      split
      · exact .object ending all
      · exact .object ending all

end

/-- All that is read with so much fuel is within the room that was given. -/
structure Bounded (fuel : Nat) : Prop where
  value : forall room cs, Within room (readValue fuel room cs).1
  items : forall room cs item, item ∈ (readItems fuel room cs).1 -> Within room item
  members : forall room cs name value, (name, value) ∈ (readMembers fuel room cs).1 ->
    Within room value

section

variable {fuel : Nat} (bounded : Bounded fuel)

include bounded

theorem Bounded.readValue (room : Nat) (cs : List Char) :
    Within room (readValue (fuel + 1) room cs).1 := by
  rw [Draft.readValue]
  split
  · exact .null
  · exact .bool true
  · exact .bool false
  · split
    · exact .broken
    · exact .unreadable
    · exact .string _
  · split
    · dsimp only
      apply within_array
      nofun
    · exact within_array (bounded.items _ _)
  · split
    · dsimp only
      apply within_object
      nofun
    · exact within_object (bounded.members _ _)
  · split
    · exact .broken
    · exact within_draft room _

theorem Bounded.readItems (room : Nat) (cs : List Char) {item : Draft}
    (mem : item ∈ (readItems (fuel + 1) room cs).1) : Within room item := by
  have first := bounded.value room cs
  rw [Draft.readItems] at mem
  dsimp only at mem
  have among : item = (Draft.readValue fuel room cs).1 ∨
      exists cs, item ∈ (Draft.readItems fuel room cs).1 := by
    split at mem
    · exact .inl (List.mem_singleton.1 mem)
    · split at mem
      · exact .inl (List.mem_singleton.1 mem)
      · exact (List.mem_cons.1 mem).imp id fun later => ⟨_, later⟩
      · exact .inl (List.mem_singleton.1 mem)
  rcases among with rfl | ⟨cs, later⟩
  · exact first
  · exact bounded.items room cs item later

theorem Bounded.readMembers (room : Nat) (cs : List Char) {name : String} {value : Draft}
    (mem : (name, value) ∈ (readMembers (fuel + 1) room cs).1) : Within room value := by
  rw [Draft.readMembers] at mem
  split at mem
  · split at mem
    · cases mem
    · dsimp only at mem
      split at mem
      · rcases List.mem_cons.1 mem with same | later
        · cases same
          split
          · exact bounded.value room _
          · exact .broken
        · split at later
          · split at later
            · cases later
            · split at later
              · cases later
              · exact bounded.members room _ name value later
              · cases later
          · exact absurd later List.not_mem_nil
      · cases mem
  · cases mem

end

theorem bounded (fuel : Nat) : Bounded fuel := by
  induction fuel with
  | zero => exact ⟨fun _ _ => .broken, nofun, nofun⟩
  | succ fuel ih =>
      exact ⟨ih.readValue, fun room cs _ => ih.readItems room cs,
        fun room cs _ _ => ih.readMembers room cs⟩

theorem within_readValue (fuel room : Nat) (cs : List Char) :
    Within room (readValue fuel room cs).1 :=
  (bounded fuel).value room cs

/-! ## Values that are held -/

theorem mem_of_items? {items : List Draft} {js : List Json} (held : items? items = some js)
    {j : Json} (mem : j ∈ js) : exists d, d ∈ items ∧ value? d = some j := by
  induction items generalizing js with
  | nil =>
      cases held
      cases mem
  | cons item rest ih =>
      have held : ((value? item).bind fun j => (items? rest).bind fun js => some (j :: js)) =
        some js := held
      obtain ⟨first, value, held⟩ := Option.bind_eq_some_iff.1 held
      obtain ⟨others, values, same⟩ := Option.bind_eq_some_iff.1 held
      cases same
      rcases List.mem_cons.1 mem with rfl | later
      · exact ⟨item, List.mem_cons_self, value⟩
      · obtain ⟨d, given, value⟩ := ih values later
        exact ⟨d, List.mem_cons_of_mem _ given, value⟩

theorem mem_of_members? {members : List (String × Draft)} {js : List (String × Json)}
    (held : members? members = some js) {name : String} {j : Json} (mem : (name, j) ∈ js) :
    exists d, (name, d) ∈ members ∧ value? d = some j := by
  induction members generalizing js with
  | nil =>
      cases held
      cases mem
  | cons member rest ih =>
      have held : ((value? member.2).bind fun j => (members? rest).bind fun js =>
        some ((member.1, j) :: js)) = some js := held
      obtain ⟨first, value, held⟩ := Option.bind_eq_some_iff.1 held
      obtain ⟨others, values, same⟩ := Option.bind_eq_some_iff.1 held
      cases same
      rcases List.mem_cons.1 mem with same | later
      · cases same
        exact ⟨member.2, List.mem_cons_self, value⟩
      · obtain ⟨d, given, value⟩ := ih values later
        exact ⟨d, List.mem_cons_of_mem _ given, value⟩

theorem Within.depth_le {n : Nat} {d : Draft} (within : Within n d) {j : Json}
    (held : value? d = some j) : j.depth ≤ n := by
  induction within generalizing j with
  | null =>
      cases held
      exact Nat.zero_le _
  | bool b =>
      cases held
      exact Nat.zero_le _
  | integer k =>
      cases held
      exact Nat.zero_le _
  | float x =>
      cases held
      exact Nat.zero_le _
  | string s =>
      cases held
      exact Nat.zero_le _
  | array ending all ih =>
      cases ending with
      | closed =>
          obtain ⟨js, items, rfl⟩ := Option.map_eq_some_iff.1 held
          apply depth_array_le_iff.2
          intro item mem
          obtain ⟨d, given, value⟩ := mem_of_items? items mem
          exact ih d given value
      | unreadable => cases held
      | broken => cases held
  | object ending all ih =>
      cases ending with
      | closed =>
          obtain ⟨js, members, rfl⟩ := Option.map_eq_some_iff.1 held
          apply depth_object_le_iff.2
          intro name value mem
          obtain ⟨d, given, value⟩ := mem_of_members? members mem
          exact ih name d given value
      | unreadable => cases held
      | broken => cases held
  | unreadable => cases held
  | broken => cases held

theorem Within.of_depth {j : Json} {n : Nat} (shallow : j.depth ≤ n) : Within n (ofJson j) := by
  induction j using Json.induction generalizing n with
  | null => exact .null
  | bool b => exact .bool b
  | integer k => exact .integer k
  | float x => exact .float x
  | string s => exact .string s
  | array items ih =>
      cases n with
      | zero => exact absurd shallow not_depth_array_le_zero
      | succ n =>
          have inside := depth_array_le_iff.1 shallow
          apply Within.array
          rw [ofItems_eq]
          intro item mem
          obtain ⟨j, given, rfl⟩ := List.mem_map.1 mem
          exact ih j given (inside j given)
  | object members ih =>
      cases n with
      | zero => exact absurd shallow not_depth_object_le_zero
      | succ n =>
          have inside := depth_object_le_iff.1 shallow
          apply Within.object
          rw [ofMembers_eq]
          intro name value mem
          obtain ⟨⟨_, j⟩, given, same⟩ := List.mem_map.1 mem
          cases same
          exact ih name j given (inside name j given)

end Draft
end Json
end RobotConsole
