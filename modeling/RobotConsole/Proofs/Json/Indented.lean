import RobotConsole.Proofs.Json.Literals
import RobotConsole.Proofs.Json.Text

/-!
# The indented text of a value

A value that was written with one item or member a line is read back, floats and all: a float that
is finite as what is read of its literal, any other as `null`.
-/

namespace RobotConsole
namespace Json

/-- All whole numbers in the value are of up to 64 bits. -/
inductive Sized : Json -> Prop where
  | null : Sized null
  | bool (b : Bool) : Sized (bool b)
  | integer {n : Int} (low : -(Numeric.wordSize 63 : Int) ≤ n) (high : n < Numeric.wordSize 64) :
      Sized (integer n)
  | float (x : Float) : Sized (float x)
  | string (s : String) : Sized (string s)
  | array {items : List Json} (all : forall item, item ∈ items -> Sized item) :
      Sized (array items)
  | object {members : List (String × Json)}
      (all : forall name value, (name, value) ∈ members -> Sized value) : Sized (object members)

mutual

/-- What a reader holds of a value that was written. -/
def reread : Json -> Json
  | float x => if Numeric.isFinite x then float (Draft.reread x) else null
  | array items => array (rereadItems items)
  | object members => object (rereadMembers members)
  | j => j

def rereadItems : List Json -> List Json
  | [] => []
  | item :: rest => reread item :: rereadItems rest

def rereadMembers : List (String × Json) -> List (String × Json)
  | [] => []
  | (name, value) :: rest => (name, reread value) :: rereadMembers rest

end

theorem rereadItems_eq (items : List Json) : rereadItems items = items.map reread := by
  induction items with
  | nil => rfl
  | cons item rest ih => exact congrArg (reread item :: ·) ih

theorem rereadMembers_eq (members : List (String × Json)) :
    rereadMembers members = members.map fun (name, value) => (name, reread value) := by
  induction members with
  | nil => rfl
  | cons member rest ih => exact congrArg ((member.1, reread member.2) :: ·) ih

theorem depth_reread_le {n : Nat} {j : Json} (shallow : j.depth ≤ n) : j.reread.depth ≤ n := by
  induction j using Json.induction generalizing n with
  | null => exact shallow
  | bool b => exact shallow
  | integer k => exact shallow
  | float x =>
      unfold reread
      split <;> exact shallow
  | string s => exact shallow
  | array items ih =>
      cases n with
      | zero => exact absurd shallow not_depth_array_le_zero
      | succ n =>
          refine depth_array_le_iff.2 ?_
          rw [rereadItems_eq]
          intro value mem
          obtain ⟨item, given, rfl⟩ := List.mem_map.1 mem
          exact ih item given (depth_array_le_iff.1 shallow item given)
  | object members ih =>
      cases n with
      | zero => exact absurd shallow not_depth_object_le_zero
      | succ n =>
          refine depth_object_le_iff.2 ?_
          rw [rereadMembers_eq]
          intro name value mem
          obtain ⟨⟨_, old⟩, given, same⟩ := List.mem_map.1 mem
          cases same
          exact ih _ old given (depth_object_le_iff.1 shallow _ old given)

/-! ## Spelling -/

theorem blank_newline (depth : Nat) : Blank (newline depth) := by
  intro c mem
  rcases List.mem_cons.1 mem with rfl | mem
  · rfl
  · rw [List.eq_of_mem_replicate mem]
    rfl

theorem spells_floatChars (x : Float) :
    Spells (floatChars Numeric.literalText x) (float x).reread := by
  unfold floatChars reread
  by_cases finite : Numeric.isFinite x
  · rw [if_pos finite, if_pos finite]
    obtain ⟨p, n, _, text, held, _⟩ := Draft.rereads_reread finite
    rw [text]
    exact .number n held
  · rw [if_neg finite, if_neg finite]
    exact .null

theorem blank_space : Blank [' '] := by
  intro c mem
  rw [List.mem_singleton.1 mem]
  rfl

section

variable {style : FloatStyle} {depth : Nat}

theorem spells_prettyItems {item : Json} {items : List Json} (outer : Nat)
    (all : forall other, other ∈ item :: items ->
      Spells (prettyChars style depth other) other.reread) :
    SpellsItems (prettyItems style depth (item :: items) ++ newline outer)
      (rereadItems (item :: items)) := by
  induction items generalizing item with
  | nil =>
      exact .last (all item List.mem_cons_self) (.intro (blank_newline depth) (blank_newline outer))
  | cons next items ih =>
      have text : prettyItems style depth (item :: next :: items) ++ newline outer =
          newline depth ++ prettyChars style depth item ++
            ',' :: (prettyItems style depth (next :: items) ++ newline outer) :=
        List.append_assoc _ _ _
      rw [text]
      exact .more (all item List.mem_cons_self) (.ahead (blank_newline depth) _)
        (ih fun other mem => all other (List.mem_cons_of_mem _ mem))

theorem spells_prettyMembers {member : String × Json} {members : List (String × Json)}
    (outer : Nat) (all : forall name value, (name, value) ∈ member :: members ->
      Spells (prettyChars style depth value) value.reread) :
    SpellsMembers (prettyMembers style depth (member :: members) ++ newline outer)
      (rereadMembers (member :: members)) := by
  induction members generalizing member with
  | nil =>
      have text : prettyMembers style depth [member] ++ newline outer =
          newline depth ++ quoted member.1 ++
            ':' :: ([' '] ++ prettyChars style depth member.2 ++ newline outer) :=
        List.append_assoc _ _ _
      rw [text]
      exact .last (.ahead (blank_newline depth) _) (all _ _ List.mem_cons_self)
        (.intro blank_space (blank_newline outer))
  | cons next members ih =>
      have text : prettyMembers style depth (member :: next :: members) ++ newline outer =
          newline depth ++ quoted member.1 ++ ':' :: ([' '] ++ prettyChars style depth member.2) ++
            ',' :: (prettyMembers style depth (next :: members) ++ newline outer) :=
        List.append_assoc _ _ _
      rw [text]
      exact .more (.ahead (blank_newline depth) _) (all _ _ List.mem_cons_self)
        (.ahead blank_space _)
        (ih fun name value mem => all name value (List.mem_cons_of_mem _ mem))

theorem spells_prettyChars {j : Json} (sized : Sized j) (depth : Nat) :
    Spells (prettyChars Numeric.literalText depth j) j.reread := by
  induction sized generalizing depth with
  | null => exact .null
  | bool b => exact .bool b
  | integer low high => exact spells_integer low high
  | float x => exact spells_floatChars x
  | string s => exact .string s
  | @array items all ih =>
      cases items with
      | nil => exact .noItems blank_nil
      | cons item items =>
          exact .array (spells_prettyItems depth fun other mem => ih other mem (depth + 1))
  | @object members all ih =>
      cases members with
      | nil => exact .noMembers blank_nil
      | cons member members =>
          exact .object
            (spells_prettyMembers depth fun name value mem => ih name value mem (depth + 1))

end

end Json
end RobotConsole
