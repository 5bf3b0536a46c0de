import RobotConsole.Json.Draft

/-!
# Values of JSON

Induction over values, how deep they are nested, and the drafts of values that are there as a
whole.
-/

namespace RobotConsole
namespace Json

@[elab_as_elim]
theorem induction {P : Json -> Prop} (null : P null) (bool : forall b, P (bool b))
    (integer : forall n, P (integer n)) (float : forall x, P (float x))
    (string : forall s, P (string s))
    (array : forall items, (forall item, item ∈ items -> P item) -> P (array items))
    (object : forall members, (forall name value, (name, value) ∈ members -> P value) ->
      P (object members)) (j : Json) : P j := by
  refine @Json.rec P (fun items => forall item, item ∈ items -> P item)
    (fun members => forall name value, (name, value) ∈ members -> P value) (fun member => P member.2)
    null bool integer float string array object ?_ ?_ ?_ ?_ ?_ j
  · nofun
  · intro item items first others other mem
    rcases List.mem_cons.1 mem with rfl | mem
    · exact first
    · exact others other mem
  · nofun
  · intro member members first others name value mem
    rcases List.mem_cons.1 mem with rfl | mem
    · exact first
    · exact others name value mem
  · intro name value holds
    exact holds

/-! ## Depth -/

mutual

/-- How many brackets are open at the innermost place of a value. -/
def depth : Json -> Nat
  | array items => itemsDepth items + 1
  | object members => membersDepth members + 1
  | _ => 0

def itemsDepth : List Json -> Nat
  | [] => 0
  | item :: rest => max (depth item) (itemsDepth rest)

def membersDepth : List (String × Json) -> Nat
  | [] => 0
  | (_, value) :: rest => max (depth value) (membersDepth rest)

end

section

variable {n : Nat} {items : List Json} {members : List (String × Json)}

theorem depth_array_le_iff :
    depth (array items) ≤ n + 1 ↔ forall item, item ∈ items -> depth item ≤ n := by
  show itemsDepth items + 1 ≤ n + 1 ↔ _
  rw [Nat.add_le_add_iff_right]
  induction items with
  | nil => exact ⟨nofun, fun _ => Nat.zero_le n⟩
  | cons item rest ih =>
      show max _ _ ≤ n ↔ _
      rw [Nat.max_le, ih, List.forall_mem_cons]

theorem depth_object_le_iff :
    depth (object members) ≤ n + 1 ↔
      forall name value, (name, value) ∈ members -> depth value ≤ n := by
  show membersDepth members + 1 ≤ n + 1 ↔ _
  rw [Nat.add_le_add_iff_right]
  induction members with
  | nil => exact ⟨nofun, fun _ => Nat.zero_le n⟩
  | cons member rest ih =>
      obtain ⟨name, value⟩ := member
      show max _ _ ≤ n ↔ _
      rw [Nat.max_le, ih]
      constructor
      · rintro ⟨first, others⟩ name' value' mem
        rcases List.mem_cons.1 mem with same | mem
        · cases same
          exact first
        · exact others name' value' mem
      · intro all
        exact ⟨all name value List.mem_cons_self,
          fun name' value' mem => all name' value' (List.mem_cons_of_mem _ mem)⟩

theorem not_depth_array_le_zero : ¬ depth (array items) ≤ 0 :=
  Nat.not_succ_le_zero _

theorem not_depth_object_le_zero : ¬ depth (object members) ≤ 0 :=
  Nat.not_succ_le_zero _

end

/-! ## Drafts of values -/

namespace Draft

theorem ofItems_eq (items : List Json) : ofItems items = items.map ofJson := by
  induction items with
  | nil => rfl
  | cons item rest ih => exact congrArg (ofJson item :: ·) ih

theorem ofMembers_eq (members : List (String × Json)) :
    ofMembers members = members.map fun (name, value) => (name, ofJson value) := by
  induction members with
  | nil => rfl
  | cons member rest ih => exact congrArg ((member.1, ofJson member.2) :: ·) ih

theorem value?_ofJson (j : Json) : value? (ofJson j) = some j := by
  induction j using Json.induction with
  | null => rfl
  | bool b => rfl
  | integer n => rfl
  | float x => rfl
  | string s => rfl
  | array items ih =>
      have all : items? (ofItems items) = some items := by
        induction items with
        | nil => rfl
        | cons item rest later =>
            show (do some ((← value? (ofJson item)) :: (← items? (ofItems rest)))) = _
            rw [ih item List.mem_cons_self,
              later fun other mem => ih other (List.mem_cons_of_mem _ mem)]
            rfl
      show (items? (ofItems items)).map Json.array = _
      rw [all]
      rfl
  | object members ih =>
      have all : members? (ofMembers members) = some members := by
        induction members with
        | nil => rfl
        | cons member rest later =>
            obtain ⟨name, value⟩ := member
            show (do some ((name, ← value? (ofJson value)) :: (← members? (ofMembers rest)))) = _
            rw [ih name value List.mem_cons_self,
              later fun name' value' mem => ih name' value' (List.mem_cons_of_mem _ mem)]
            rfl
      show (members? (ofMembers members)).map Json.object = _
      rw [all]
      rfl

end Draft

end Json
end RobotConsole
