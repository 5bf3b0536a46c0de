import RobotConsole.Proofs.Gate.History

/-!
# The gate and the dialog

The request that is outstanding and what the dialog shows are two pieces of state,
and both are written wherever a request comes or goes. No move lets them differ.
-/

namespace RobotConsole

/-! ## The gate alone -/

namespace Gate

variable (g : Gate)

def view : ConfirmationView :=
  match g.outstanding with
  | some id => .of id
  | none => {}

def acceptIfFree : Gate :=
  if g.outstanding = none then g.accept else g

def answer (resolution : Resolution) : Gate :=
  match g.outstanding with
  | some id => g.deliver id (.resolved resolution)
  | none => g

@[simp] theorem view_request : g.view.request = g.outstanding := by
  unfold view
  cases g.outstanding <;> rfl

@[simp] theorem view_pending : g.view.pending = g.view.request.isSome := by
  unfold view
  cases g.outstanding <;> rfl

@[simp] theorem verdict?_accept (id : RequestId) : g.accept.verdict? id = g.verdict? id := rfl

theorem verdict?_deliver (id : RequestId) (verdict : Verdict) (other : RequestId) :
    (g.deliver id verdict).verdict? other =
      (g.verdict? other).or (if other = id then some verdict else none) := by
  simp only [verdict?, deliver, List.lookup_append]
  by_cases same : other = id
  · simp [same]
  · have differs : (other == id) = false := by simp [same]
    simp [List.lookup_cons, differs, same]

theorem verdict?_forget (id other : RequestId) :
    (g.forget id).verdict? other = if other = id then none else g.verdict? other :=
  lookup_filter_ne g.mail id other

theorem outstanding_forget (id : RequestId) :
    (g.forget id).outstanding = if g.outstanding = some id then none else g.outstanding := rfl

end Gate

namespace Console

/-! ## The dialog shows what is outstanding -/

section

variable {c : Console}

def Shown (c : Console) : Prop :=
  c.state.confirmation = c.gate.view

theorem shown_of_same {c' : Console} (shown : c.Shown)
    (view : c'.state.confirmation = c.state.confirmation) (gate : c'.gate = c.gate) :
    c'.Shown := by
  unfold Shown
  rw [view, gate]
  exact shown

theorem Shown.ifFree (shown : c.Shown) : c.ifFree.Shown := by
  unfold Console.ifFree
  split
  · rfl
  · exact shown

theorem Shown.deliver (shown : c.Shown) {id : RequestId} (taken : c.gate.outstanding = some id)
    (verdict : Verdict) : (c.deliver id verdict).Shown := by
  have request : c.state.confirmation.request = some id := by
    rw [shown, Gate.view_request, taken]
  unfold Console.deliver Shown
  simp only [update_state, update_gate]
  rw [SessionState.closeRequest_confirmation, if_pos request]
  rfl

theorem Shown.resolve (shown : c.Shown) (resolution : Resolution) :
    (c.resolve resolution).1.Shown := by
  unfold Console.resolve
  split
  · rename_i id taken
    exact shown.deliver taken _
  · exact shown

theorem Shown.resolveRequest (shown : c.Shown) (id : RequestId) (resolution : Resolution) :
    (c.resolveRequest id resolution).1.Shown := by
  unfold Console.resolveRequest
  split
  · rename_i taken
    exact shown.deliver taken _
  · exact shown

theorem Shown.dismiss (shown : c.Shown) : c.dismiss.1.Shown := by
  unfold Console.dismiss
  split
  · rename_i id taken
    exact shown.deliver taken _
  · exact shown

theorem Shown.releaseRequest (shown : c.Shown) (id : RequestId) :
    (c.releaseRequest id).Shown := by
  have request : c.state.confirmation.request = c.gate.outstanding := by
    rw [shown, Gate.view_request]
  unfold Console.releaseRequest Shown
  dsimp only
  rw [request]
  split
  · rename_i taken
    simp only [update_state, update_gate]
    rw [SessionState.closeRequest_confirmation, request, if_pos taken]
    simp [Gate.view, Gate.forget, taken]
  · rename_i other
    simp only [Gate.view, Gate.forget, if_neg other]
    exact shown

theorem Shown.enact (shown : c.Shown) (e : Effect) : (c.enact e).Shown := by
  have asked : (if e.asks then c.ifFree else c).Shown := by
    split
    · exact shown.ifFree
    · exact shown
  have changed : (e.change.elim (if e.asks then c.ifFree else c) fun change =>
      (if e.asks then c.ifFree else c).update fun s =>
        { s with editor := s.editor.change change }).Shown := by
    cases e.change <;> exact asked
  unfold Console.enact
  dsimp only
  cases e.mode <;> cases e.answer with
  | none => exact changed
  | some resolution => exact Shown.resolve (by exact changed) resolution

theorem step_gate (c : Console) (m : Move) : (c.step m).gate = (c.outcomeOf m).gate := by
  have same := congrArg gate (step_bare c m)
  exact same

theorem Shown.step (shown : c.Shown) (m : Move) : (c.step m).Shown := by
  have outcome : (c.outcomeOf m).Shown := by
    cases m with
    | start operation notice =>
        have started : { c with started := c.started + 1 }.Shown := shown
        exact started.enact _
    | reply task wait answer => exact shown.enact _
    | wake task expired =>
        simp only [outcomeOf]
        cases c.collected? task expired with
        | none => exact shown
        | some collected => exact (shown.releaseRequest collected.1).enact _
    | drop task =>
        simp only [outcomeOf]
        cases c.request? task with
        | none => exact shown
        | some id => exact shown.releaseRequest id
    | resolve resolution => exact shown.enact _
    | resolveRequest id resolution => exact shown.resolveRequest id resolution
    | dismiss => exact shown.dismiss
    | edit content => exact shown.enact _
    | setAlliance alliance => cases alliance <;> exact shown
    | apply now event => cases event with
      | telemetry batch =>
          exact shown_of_same shown (by simp [outcomeOf, apply, applyBatch, SessionState.applyBatch])
            (by simp [outcomeOf, apply, applyBatch])
      | log event =>
          exact shown_of_same shown (by simp [outcomeOf, apply, applyLog, SessionState.applyLog])
            (by simp [outcomeOf, apply, applyLog])
    | tick now =>
        exact shown_of_same shown (by simp [outcomeOf, tick, SessionState.tick])
          (by simp [outcomeOf, tick])
  have view := congrArg (fun c => c.state.confirmation) (step_bare c m)
  exact shown_of_same outcome view (step_gate c m)

end

end Console
end RobotConsole
