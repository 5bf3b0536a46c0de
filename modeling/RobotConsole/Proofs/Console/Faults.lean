import RobotConsole.Proofs.Console.ModeChanges

/-!
# Faults

The fault flag of the link stays raised until something clears it. Faults that the controller
reports and emergency stops raise it, but only while the link is up; going idle clears it, and
so does a tick that finds the link down. Nothing else that happens to a console has to do with
it, so the flag tells of a run exactly whether a fault was raised and not cleared since.
-/

namespace RobotConsole

/-! ## What stands in a run -/

/-- Something in a list raises, and nothing behind it clears. What each thing does may depend on
all that is in front of it. -/
def Standing {α : Type} (raises clears : List α -> α -> Prop) (things : List α) : Prop :=
  exists before a after, things = before ++ a :: after ∧ raises before a ∧
    forall between b rest, after = between ++ b :: rest -> ¬ clears (before ++ a :: between) b

section

variable {α : Type} {raises clears : List α -> α -> Prop}

theorem not_standing_nil : ¬ Standing raises clears [] := by
  rintro ⟨before, a, after, split, _⟩
  simp at split

theorem standing_snoc (things : List α) (last : α) :
    Standing raises clears (things ++ [last]) ↔
      raises things last ∨ Standing raises clears things ∧ ¬ clears things last := by
  constructor
  · rintro ⟨before, a, after, split, raised, kept⟩
    rcases List.eq_nil_or_concat after with rfl | ⟨after, final, rfl⟩
    · obtain ⟨rfl, same⟩ := List.append_inj' split rfl
      cases same
      exact .inl raised
    · rw [List.concat_eq_append, ← List.cons_append, ← List.append_assoc] at split
      obtain ⟨rfl, same⟩ := List.append_inj' split rfl
      cases same
      refine .inr ⟨⟨before, a, after, rfl, raised, ?_⟩, kept after last [] (by simp)⟩
      intro between b rest split
      exact kept between b (rest ++ [last]) (by simp [split])
  · rintro (raised | ⟨⟨before, a, after, rfl, raised, kept⟩, keeps⟩)
    · exact ⟨things, last, [], rfl, raised, by simp⟩
    · refine ⟨before, a, after ++ [last], by simp, raised, ?_⟩
      intro between b rest split
      rcases List.eq_nil_or_concat rest with rfl | ⟨rest, final, rfl⟩
      · obtain ⟨rfl, same⟩ := List.append_inj' split rfl
        cases same
        exact keeps
      · rw [List.concat_eq_append, ← List.cons_append, ← List.append_assoc] at split
        exact kept between b rest (List.append_inj' split rfl).1

end

/-! ## The flag of a link -/

namespace Link

section

variable {α : Type} {link : Link α}

theorem errorFlag_noteLog (event : LogEvent) :
    (link.noteLog event).errorFlag = true ↔
      link.status ≠ .disconnected ∧ (event.level = .error ∨ event.level = .critical) ∨
        link.errorFlag = true := by
  have fault : event.level.isFault = true ↔ event.level = .error ∨ event.level = .critical := by
    cases event.level <;> decide
  have up : ¬ link.isDown = true ↔ link.status ≠ .disconnected := not_congr isDown_iff
  rw [← fault, ← up]
  unfold noteLog
  split
  · rename_i raised
    exact iff_of_true rfl (.inl raised.symm)
  · rename_i ignored
    constructor
    · exact .inr
    · rintro (raised | flag)
      · exact absurd raised.symm ignored
      · exact flag

theorem Sound.errorFlag_applyMode (sound : link.Sound) (mode : Mode) :
    (link.applyMode mode).errorFlag = true ↔
      link.status ≠ .disconnected ∧ mode = .emergencyStop ∨
        link.errorFlag = true ∧ mode ≠ .idle := by
  unfold Link.applyMode
  split
  · rename_i down
    have down : link.status = .disconnected := isDown_iff.1 down
    simp [down, (sound.quiet down).2]
  · rename_i up
    have up : link.status ≠ .disconnected := fun down => up (isDown_iff.2 down)
    cases mode <;> simp [up]

theorem errorFlag_tick [RateScalar α] (now : Int) :
    (link.tick now).errorFlag = true ↔
      link.errorFlag = true ∧ (link.tick now).status ≠ .disconnected := by
  unfold tick
  dsimp only
  split
  · dsimp only
    split <;> simp
  · simp

end

end Link

/-! ## The flag of a run -/

namespace Console

/-- While the link is up, a fault that the controller reports raises the flag, and an emergency
stop that succeeds. -/
def RaisesFault (c : Console) (m : Move) : Prop :=
  c.state.link.status ≠ .disconnected ∧
    ((exists now event, m = .apply now (.log event) ∧
        (event.level = .error ∨ event.level = .critical)) ∨
      exists task, c.settled? m = some (task, .emergencyStop, .ok ()))

/-- Going idle clears the flag if it succeeds, and so does a tick that leaves the link down. -/
def ClearsFault (c : Console) (m : Move) : Prop :=
  (exists task, c.settled? m = some (task, .idle, .ok ())) ∨
    exists now, m = .tick now ∧ (c.step m).state.link.status = .disconnected

section

variable {c : Console}

theorem errorFlag_of_settled (sound : c.state.link.Sound) {m : Move} {task : Nat} {mode : Mode}
    {answer : Except Failure Unit} (settled : c.settled? m = some (task, mode, answer)) :
    (c.step m).state.link.errorFlag = true ↔
      c.RaisesFault m ∨ c.state.link.errorFlag = true ∧ ¬ c.ClearsFault m := by
  have noLog (now : Int) (event : LogEvent) : m ≠ .apply now (.log event) := by
    rintro rfl
    cases settled
  have noTick (now : Int) : m ≠ .tick now := by
    rintro rfl
    cases settled
  unfold RaisesFault ClearsFault
  rw [state_of_settled settled, settled]
  cases answer with
  | error failure => simp [settledState, noLog, noTick]
  | ok =>
      have flag := sound.errorFlag_applyMode mode
      simpa [settledState, noLog, noTick] using flag

theorem errorFlag_step (sound : c.state.link.Sound) (m : Move) :
    (c.step m).state.link.errorFlag = true ↔
      c.RaisesFault m ∨ c.state.link.errorFlag = true ∧ ¬ c.ClearsFault m := by
  cases settled : c.settled? m with
  | some entry => exact errorFlag_of_settled sound settled
  | none =>
      have changed := step_link c m
      unfold RaisesFault ClearsFault
      rw [settled]
      cases m with
      | apply now event => cases event with
        | log event =>
            rw [changed]
            simpa [linkChange?, Link.change] using Link.errorFlag_noteLog event
        | telemetry batch =>
            have kept : (c.step (.apply now (.telemetry batch))).state.link.errorFlag =
                c.state.link.errorFlag := by
              rw [changed]
              simp only [linkChange?]
              split <;> rfl
            simp [kept]
      | tick now =>
          rw [changed]
          simpa [linkChange?, Link.change] using Link.errorFlag_tick now
      | setAlliance alliance =>
          rw [changed]
          simp [linkChange?, Link.change, Link.setAlliance]
      | _ =>
          rw [changed]
          simp [linkChange?, settled]

end

/-- The flag is raised exactly if the run has a move that raises it and since then none that
clears it. -/
theorem errorFlag_play_iff (settings : Settings) (hasLogDisplay : Bool) (moves : List Move) :
    let first := fresh settings hasLogDisplay
    (first.play moves).state.link.errorFlag = true ↔
      exists before m after, moves = before ++ m :: after ∧ (first.play before).RaisesFault m ∧
        forall between later rest, after = between ++ later :: rest ->
          ¬ (first.play (before ++ m :: between)).ClearsFault later := by
  intro first
  show _ ↔ Standing (fun before => (first.play before).RaisesFault)
    (fun before => (first.play before).ClearsFault) moves
  induction moves using List.reverseRecOn with
  | nil =>
      apply iff_of_false
      · exact Bool.false_ne_true
      · exact not_standing_nil
  | append_singleton moves last ih =>
      have sound : (first.play moves).state.link.Sound := by
        rw [link_play]
        exact Link.sound_play settings.health _
      rw [play_snoc, errorFlag_step sound, ih, standing_snoc]

end Console
end RobotConsole
