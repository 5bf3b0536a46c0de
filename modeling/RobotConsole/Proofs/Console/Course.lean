import RobotConsole.Proofs.Console.Run

/-!
# The course of an operation

An operation goes from one wait to the next, and only its own moves take it there. What
holds of its first wait and passes from each wait to the next one holds of all that it
ever waits for, whatever else happens in between.
-/

namespace RobotConsole

/-- What passes from each wait of an operation to the next one. -/
def Wait.PassedOn (P : Wait -> Prop) : Prop :=
  forall (wait : Wait) (answer : wait.Reply) (next : Wait),
    P wait -> wait.next? answer = some next -> P next

namespace Console

/-- An operation that was started waits only for what a predicate allows, or is over. -/
structure Course (c : Console) (task : Nat) (P : Wait -> Prop) : Prop where
  numbered : c.Numbered
  known : task ≤ c.started
  waits : forall wait, c.wait? task = some wait -> P wait

section

variable {c : Console} {task : Nat} {P : Wait -> Prop}

theorem course_start (numbered : c.Numbered) (operation : Operation)
    (notice : Except Failure Unit)
    (first : forall wait, c.firstWait? operation = some wait -> P wait) :
    (c.step (.start operation notice)).Course (c.started + 1) P := by
  constructor
  · exact numbered.step _
  · exact Nat.le_of_eq (step_started c (.start operation notice)).symm
  · intro wait waits
    rw [step, wait?_start c numbered, if_pos rfl] at waits
    exact first wait waits

theorem Course.step (h : c.Course task P) (passed : Wait.PassedOn P) (m : Move) :
    (c.step m).Course task P := by
  have known := h.known
  constructor
  · exact h.numbered.step m
  · rw [step_started]
    cases m <;> dsimp only <;> omega
  · intro wait waits
    rcases moved_or_waiting c h.numbered waits with moved | before
    · cases m with
      | start operation notice =>
          simp only [movedOn?, Option.some.injEq, Prod.mk.injEq] at moved
          omega
      | reply task' wait' answer =>
          simp only [movedOn?] at moved
          split at moved
          · rename_i applies
            simp only [Option.some.injEq, Prod.mk.injEq] at moved
            rcases moved with ⟨mine, goesOn⟩
            rw [mine] at applies
            exact passed wait' answer wait (h.waits wait' applies.2) goesOn
          · cases moved
      | wake task' expired =>
          simp only [movedOn?, Option.map_eq_some_iff] at moved
          rcases moved with ⟨⟨id, next, outcome⟩, collected, same⟩
          simp only [Prod.mk.injEq] at same
          rcases same with ⟨mine, goesOn⟩
          rw [mine] at collected
          have waiting := (wake_of_collected c collected).1
          exact passed (.confirmation id next) outcome wait (h.waits _ waiting) goesOn
      | drop task' =>
          simp only [movedOn?, Option.map_eq_some_iff] at moved
          rcases moved with ⟨wait', _, same⟩
          cases same
      | _ => cases moved
    · exact h.waits wait before

theorem Course.play (h : c.Course task P) (passed : Wait.PassedOn P) (moves : List Move) :
    (c.play moves).Course task P := by
  induction moves generalizing c with
  | nil => exact h
  | cons m rest ih => exact ih (h.step passed m)

end

end Console
end RobotConsole
