import RobotConsole.Dict

/-!
# Building dictionaries

Entries that come in ascending order are kept as they come.
-/

namespace RobotConsole
namespace Dict

variable {κ : Type} {α : Type} [Ord κ]

theorem mem_insert {key : κ} {a : α} {d : Dict κ α} {entry : κ × α}
    (mem : entry ∈ insert key a d) : entry = (key, a) ∨ entry ∈ d := by
  unfold insert at mem
  induction d with
  | nil => exact .inl (List.mem_singleton.1 mem)
  | cons head rest ih =>
      obtain ⟨k, b⟩ := head
      simp only [alter] at mem
      split at mem
      · exact List.mem_cons.1 mem
      · exact (List.mem_cons.1 mem).imp id (List.mem_cons_of_mem _)
      · rcases List.mem_cons.1 mem with rfl | later
        · exact .inr List.mem_cons_self
        · exact (ih later).imp id (List.mem_cons_of_mem _)

theorem mem_of_mem_ofList {entries : List (κ × α)} {entry : κ × α}
    (mem : entry ∈ ofList entries) : entry ∈ entries := by
  suffices forall d : Dict κ α,
      entry ∈ entries.foldl (fun d entry => insert entry.1 entry.2 d) d ->
        entry ∈ d ∨ entry ∈ entries from
    (this [] mem).resolve_left List.not_mem_nil
  clear mem
  induction entries with
  | nil =>
      intro d mem
      exact .inl mem
  | cons first rest ih =>
      intro d mem
      rcases ih _ mem with old | later
      · rcases mem_insert old with rfl | old
        · exact .inr List.mem_cons_self
        · exact .inl old
      · exact .inr (List.mem_cons_of_mem _ later)

section

variable [Std.OrientedOrd κ]

theorem insert_of_forall_lt {key : κ} {d : Dict κ α}
    (ahead : forall entry, entry ∈ d -> compare entry.1 key = .lt) (a : α) :
    insert key a d = d ++ [(key, a)] := by
  unfold insert
  induction d with
  | nil => rfl
  | cons head rest ih =>
      have behind : compare key head.1 = .gt :=
        Std.OrientedCmp.gt_of_lt (ahead head List.mem_cons_self)
      simp only [alter, behind]
      rw [ih fun entry mem => ahead entry (List.mem_cons_of_mem _ mem)]
      rfl

theorem insert_of_ascending_concat {d : Dict κ α} {entry : κ × α}
    (h : Ascending (d ++ [entry])) : insert entry.1 entry.2 d = d ++ [entry] := by
  apply insert_of_forall_lt
  intro other mem
  exact (List.pairwise_append.1 h).2.2 other mem entry List.mem_cons_self

theorem Ascending.ofList_eq {entries : List (κ × α)} (h : Ascending entries) :
    ofList entries = entries := by
  suffices forall d : Dict κ α, Ascending (d ++ entries) ->
      entries.foldl (fun d entry => insert entry.1 entry.2 d) d = d ++ entries from
    this [] h
  clear h
  induction entries with
  | nil =>
      intro d _
      exact (List.append_nil d).symm
  | cons first rest ih =>
      intro d h
      have split : d ++ first :: rest = (d ++ [first]) ++ rest := by simp
      rw [split] at h ⊢
      rw [List.foldl_cons, insert_of_ascending_concat (List.pairwise_append.1 h).1]
      exact ih _ h

end

end Dict
end RobotConsole
