/-!
# Bounded histories

A history keeps the newest of the items pushed onto it, oldest first.
-/

namespace RobotConsole

def keepLast {α : Type} (n : Nat) (items : List α) : List α :=
  items.drop (items.length - n)

/-- The newest items pushed so far, at most `capacity` of them. -/
structure History (capacity : Nat) (α : Type) where
  items : List α := []
  deriving DecidableEq, Repr, Inhabited

namespace History

variable {capacity : Nat} {α : Type}

def push (h : History capacity α) (a : α) : History capacity α :=
  ⟨keepLast capacity (h.items ++ [a])⟩

def size (h : History capacity α) : Nat :=
  h.items.length

def isEmpty (h : History capacity α) : Bool :=
  h.items.isEmpty

def oldest? (h : History capacity α) : Option α :=
  h.items.head?

def latest? (h : History capacity α) : Option α :=
  h.items.getLast?

theorem items_push (h : History capacity α) (a : α) :
    (h.push a).items = keepLast capacity (h.items ++ [a]) :=
  rfl

end History

theorem length_keepLast {α : Type} (n : Nat) (items : List α) :
    (keepLast n items).length = min n items.length := by
  simp [keepLast]
  omega

theorem getLast?_keepLast {α : Type} {n : Nat} (some : 0 < n) (items : List α) :
    (keepLast n items).getLast? = items.getLast? := by
  unfold keepLast
  rw [List.getLast?_drop]
  split
  · rename_i short
    have empty : items = [] := List.eq_nil_of_length_eq_zero (by omega)
    rw [empty]
    rfl
  · rfl

theorem keepLast_keepLast_append {α : Type} (n : Nat) (older newer : List α) :
    keepLast n (keepLast n older ++ newer) = keepLast n (older ++ newer) := by
  simp only [keepLast, List.length_append, List.length_drop]
  rcases Nat.le_total older.length n with h | h
  · simp [Nat.sub_eq_zero_of_le h]
  · have split : older.length + newer.length - n = (older.length - n) + newer.length := by omega
    rw [← List.drop_append_of_le_length (by omega), List.drop_drop]
    congr 1
    omega

theorem History.items_push_seen {capacity : Nat} {α β : Type} (see : β -> Option α)
    {h : History capacity α} {things : List β}
    (kept : h.items = keepLast capacity (things.filterMap see)) (thing : β) :
    ((see thing).elim h h.push).items = keepLast capacity ((things ++ [thing]).filterMap see) := by
  rw [List.filterMap_append]
  cases seen : see thing with
  | none => simpa [seen] using kept
  | some a =>
      rw [Option.elim_some, items_push, kept, keepLast_keepLast_append]
      simp [seen]

end RobotConsole
