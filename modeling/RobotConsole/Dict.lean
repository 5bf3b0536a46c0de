/-!
# Dictionaries

Entries are kept in ascending order of their keys, no key twice. The functions
work on plain lists of entries, so that an inductive type can hold dictionaries
of itself; that the order is ascending is a predicate, which every function here
keeps.
-/

namespace RobotConsole

abbrev Dict (κ : Type) (α : Type) := List (κ × α)

namespace Dict

variable {κ : Type} {α : Type} [Ord κ]

def find? (key : κ) : Dict κ α -> Option α
  | [] => none
  | (k, a) :: rest => if compare key k = .eq then some a else find? key rest

def alter (key : κ) (f : Option α -> α) : Dict κ α -> Dict κ α
  | [] => [(key, f none)]
  | (k, a) :: rest =>
      match compare key k with
      | .lt => (key, f none) :: (k, a) :: rest
      | .eq => (key, f (some a)) :: rest
      | .gt => (k, a) :: alter key f rest

def insert (key : κ) (a : α) (d : Dict κ α) : Dict κ α :=
  alter key (fun _ => a) d

/-- The dictionary with the given entries; of several under one key, the last. -/
def ofList (entries : List (κ × α)) : Dict κ α :=
  entries.foldl (fun d entry => insert entry.1 entry.2 d) []

def Ascending (d : Dict κ α) : Prop :=
  d.Pairwise fun a b => compare a.1 b.1 = .lt

theorem ascending_nil : Ascending ([] : Dict κ α) :=
  List.Pairwise.nil

section Laws

variable [Std.TransOrd κ] [Std.LawfulEqOrd κ]

theorem find?_alter_self (key : κ) (f : Option α -> α) (d : Dict κ α)
    (h : Ascending d) : find? key (alter key f d) = some (f (find? key d)) := by
  induction d with
  | nil => simp [alter, find?]
  | cons entry rest ih =>
      obtain ⟨k, a⟩ := entry
      have tail := (List.pairwise_cons.1 h).2
      have ahead := (List.pairwise_cons.1 h).1
      cases order : compare key k with
      | lt =>
          have missing : find? key rest = none := by
            clear ih tail h
            induction rest with
            | nil => rfl
            | cons entry rest ih =>
                have step := Std.TransCmp.lt_trans order (ahead entry (by simp))
                simp [find?, step, ih (fun b hb => ahead b (by simp [hb]))]
          simp [alter, find?, order, missing]
      | eq => simp [alter, find?, order]
      | gt => simp [alter, find?, order, ih tail]

omit [Std.TransOrd κ] in
theorem find?_alter_of_ne {key other : κ} (f : Option α -> α) (d : Dict κ α)
    (h : compare other key ≠ .eq) : find? other (alter key f d) = find? other d := by
  induction d with
  | nil => simp [alter, find?, h]
  | cons entry rest ih =>
      obtain ⟨k, a⟩ := entry
      cases order : compare key k with
      | lt => simp [alter, find?, order, h]
      | eq =>
          have same := Std.LawfulEqOrd.eq_of_compare order
          subst same
          simp [alter, find?, h]
      | gt => simp [alter, find?, order, ih]

omit [Std.TransOrd κ] in
theorem mem_alter {key : κ} {f : Option α -> α} {d : Dict κ α} {entry : κ × α}
    (h : entry ∈ alter key f d) : entry.1 = key ∨ entry ∈ d := by
  induction d with
  | nil => simp [alter] at h; simp [h]
  | cons head rest ih =>
      obtain ⟨k, a⟩ := head
      simp only [alter] at h
      split at h
      · simp at h; rcases h with rfl | rfl | h <;> simp_all
      · simp at h; rcases h with rfl | h <;> simp_all
      · simp at h
        rcases h with rfl | h
        · simp
        · rcases ih h with same | old <;> simp [*]

theorem Ascending.alter {d : Dict κ α} (h : Ascending d) (key : κ) (f : Option α -> α) :
    Ascending (alter key f d) := by
  induction d with
  | nil => simp [Dict.alter, Ascending]
  | cons entry rest ih =>
      obtain ⟨k, a⟩ := entry
      have tail := (List.pairwise_cons.1 h).2
      have ahead := (List.pairwise_cons.1 h).1
      cases order : compare key k with
      | lt =>
          simp only [Dict.alter, order]
          refine List.pairwise_cons.2 ⟨?_, h⟩
          intro b hb
          rcases List.mem_cons.1 hb with rfl | hb
          · exact order
          · exact Std.TransCmp.lt_trans order (ahead b hb)
      | eq =>
          have same := Std.LawfulEqOrd.eq_of_compare order
          subst same
          simp only [Dict.alter, order]
          exact List.pairwise_cons.2 ⟨ahead, tail⟩
      | gt =>
          simp only [Dict.alter, order]
          refine List.pairwise_cons.2 ⟨?_, ih tail⟩
          intro b hb
          rcases mem_alter hb with same | old
          · rw [same]; exact Std.OrientedCmp.lt_of_gt order
          · exact ahead b old

theorem ascending_ofList (entries : List (κ × α)) : Ascending (ofList entries) := by
  suffices forall d : Dict κ α, Ascending d ->
      Ascending (entries.foldl (fun d entry => insert entry.1 entry.2 d) d) from
    this [] ascending_nil
  induction entries with
  | nil => intro d h; exact h
  | cons entry rest ih => intro d h; exact ih _ (h.alter entry.1 _)

end Laws

end Dict
end RobotConsole
