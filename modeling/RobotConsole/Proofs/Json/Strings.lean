import Mathlib.Tactic.IntervalCases
import RobotConsole.Json.Draft
import RobotConsole.Json.Printer

/-!
# Strings in JSON

A string that was written is read back, whatever characters it has.
-/

namespace RobotConsole
namespace Json

namespace Draft

def unitAhead (c : Char) (read : Option (List Unit16 × List Char)) :
    Option (List Unit16 × List Char) := do
  let (units, rest) ← read
  some (.char c :: units, rest)

theorem readUnits?_plain {c : Char} (quote : c ≠ '"') (backslash : c ≠ '\\')
    (visible : ¬ c.toNat < 0x20) (rest : List Char) :
    readUnits? (c :: rest) = unitAhead c (readUnits? rest) := by
  rw [readUnits?.eq_5 c rest quote (by simp [backslash]) (by simp [backslash]),
    if_neg (by simp only [backslash, visible, or_self, not_false_eq_true])]
  rfl

theorem readUnits?_control {n : Nat} (control : n < 0x20) (rest : List Char) :
    readUnits? (escape (Char.ofNat n) ++ rest) = unitAhead (Char.ofNat n) (readUnits? rest) := by
  interval_cases n <;> rfl

theorem readUnits?_escape (c : Char) (rest : List Char) :
    readUnits? (escape c ++ rest) = unitAhead c (readUnits? rest) := by
  by_cases control : c.toNat < 0x20
  · rw [← Char.ofNat_toNat c]
    exact readUnits?_control control rest
  · unfold escape
    split
    · rename_i quote
      subst quote
      rfl
    · rename_i quote
      split
      · rename_i backslash
        subst backslash
        rfl
      · rename_i backslash
        rw [if_pos (Nat.le_of_not_lt control)]
        exact readUnits?_plain quote backslash control rest

theorem readUnits?_escaped (cs rest : List Char) :
    readUnits? (cs.flatMap escape ++ '"' :: rest) = some (cs.map .char, rest) := by
  induction cs with
  | nil => rfl
  | cons c cs ih =>
      rw [List.flatMap_cons, List.append_assoc, readUnits?_escape, ih]
      rfl

theorem joinUnits?_map_char (cs : List Char) : joinUnits? (cs.map .char) = some cs := by
  induction cs with
  | nil => rfl
  | cons c cs ih =>
      show (joinUnits? (cs.map .char)).map (c :: ·) = _
      rw [ih]
      rfl

theorem readString?_quoted (s : String) (rest : List Char) :
    readString? (s.toList.flatMap escape ++ '"' :: rest) = some (some s, rest) := by
  unfold readString?
  rw [readUnits?_escaped, Option.map_some]
  dsimp only
  rw [joinUnits?_map_char, Option.map_some, String.ofList_toList]

end Draft

theorem quoted_append (s : String) (rest : List Char) :
    quoted s ++ rest = '"' :: (s.toList.flatMap escape ++ '"' :: rest) := by
  unfold quoted
  simp

end Json
end RobotConsole
