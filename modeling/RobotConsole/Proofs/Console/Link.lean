import RobotConsole.Proofs.Console.Run
import RobotConsole.Proofs.Link.Run

/-!
# The link of a run

The moves that change the link are few: batches that count as arrivals, log events, ticks,
changes of the alliance, and mode changes that are settled with success. The link that a
run leaves is what these changes, in their order, make of a new one. The operations and
the dialog have no other way to it.
-/

namespace RobotConsole
namespace Console

/-! ## Observations -/

/-- The mode change that a move settles, with its operation and the outcome of its request. An
emergency stop is settled as it begins, another mode change by the reply to its request. -/
def settled? (c : Console) : Move -> Option (Nat × Mode × Except Failure Unit)
  | .start (.changeMode .emergencyStop) notice => some (c.started + 1, .emergencyStop, notice)
  | .reply task (.invoke mode) answer =>
      if c.wait? task = some (.invoke mode) then some (task, mode, answer) else none
  | _ => none

def modeChange? : Nat × Mode × Except Failure Unit -> Option LinkChange
  | (_, mode, .ok ()) => some (.mode mode)
  | (_, _, .error _) => none

def linkChange? (c : Console) : Move -> Option LinkChange
  | .apply now (.telemetry batch) =>
      if Peripherals.countsAsArrival batch.kind batch.disconnect then
        some (.arrival (batch.timestampOr now))
      else none
  | .apply _ (.log event) => some (.log event)
  | .tick now => some (.tick now)
  | .setAlliance alliance => some (.alliance alliance)
  | m => (c.settled? m).bind modeChange?

end Console

theorem Guarded.effect_mode (next : Guarded) : next.effect.mode = none := by
  cases next <;> rfl

namespace Console

section

variable (c : Console)

/-! ## What moves do to the link -/

theorem effect_mode (m : Move) :
    (c.effect m).mode.map LinkChange.mode = (c.settled? m).bind modeChange? := by
  have guarded (next : Guarded) : (next.firstEffect c.state.editor.dirty).mode = none := by
    unfold Guarded.firstEffect
    split
    · rfl
    · exact next.effect_mode
  cases m with
  | start operation notice => cases operation with
    | create => simp [effect, Operation.effect, guarded, settled?]
    | openFile => simp [effect, Operation.effect, guarded, settled?]
    | download => simp [effect, Operation.effect, guarded, settled?]
    | answer choice => cases choice <;> rfl
    | changeMode mode => cases mode with
      | emergencyStop => cases notice <;> rfl
      | _ => rfl
    | _ => rfl
  | reply task wait answer => cases wait with
    | invoke mode =>
        simp only [effect, settled?, Wait.isCall, true_and]
        split
        · cases answer <;> rfl
        · rfl
    | confirmation id next => rfl
    | _ =>
        simp only [effect, settled?]
        split
        · cases answer <;> rfl
        · rfl
  | wake task expired =>
      simp only [effect, settled?]
      cases c.collected? task expired with
      | none => rfl
      | some collected =>
          rcases collected with ⟨id, next, outcome⟩
          cases outcome with
          | ok => simp [Wait.effect, Guarded.effect_mode]
          | error failure => rfl
  | _ => rfl

theorem step_link (m : Move) :
    (c.step m).state.link = (c.linkChange? m).elim c.state.link c.state.link.change := by
  have moded : (c.effect m).mode.elim c.state.link c.state.link.applyMode =
      ((c.settled? m).bind modeChange?).elim c.state.link c.state.link.change := by
    rw [← effect_mode]
    cases (c.effect m).mode <;> rfl
  refine (congrArg SessionState.link (step_session c m)).trans ?_
  cases m with
  | apply now event => cases event with
    | telemetry batch =>
        show (if _ then _ else _) = _
        simp only [linkChange?]
        split <;> rfl
    | log event => rfl
  | setAlliance alliance => rfl
  | tick now => rfl
  | _ => exact moded

theorem link_play (settings : Settings) (hasLogDisplay : Bool) (moves : List Move) :
    let first := fresh settings hasLogDisplay
    (first.play moves).state.link = Link.play settings.health (first.trace linkChange? moves) := by
  intro first
  induction moves using List.reverseRecOn with
  | nil => rfl
  | append_singleton moves m ih =>
      rw [play_snoc, trace_snoc, step_link, ih]
      cases (first.play moves).linkChange? m with
      | none => simp
      | some change => exact (Link.play_concat settings.health _ change).symm

end

end Console
end RobotConsole
