import RobotConsole.Proofs.Console.Run

/-!
# Published states

Observers see the state that a console starts with and every state that it publishes, also
those between two changes of one move. What a new session satisfies and every change of a
session keeps is true of all of them.
-/

namespace RobotConsole

/-- What every change that a console makes to its session keeps. -/
structure SessionState.Kept (P : SessionState -> Prop) : Prop where
  editor : forall {s : SessionState} (editor : EditorState), P s -> P { s with editor }
  dialog : forall {s : SessionState} (confirmation : ConfirmationView),
    P s -> P { s with confirmation }
  alliance : forall {s : SessionState} (alliance : Option Alliance),
    P s -> P { s with link := s.link.setAlliance alliance }
  mode : forall {s : SessionState} (mode : Mode),
    P s -> P { s with link := s.link.applyMode mode }
  batch : forall {s : SessionState} (now : Int) (batch : TelemetryBatch),
    P s -> P (s.applyBatch now batch)
  log : forall {s : SessionState} (event : LogEvent), P s -> P (s.applyLog event)
  tick : forall {s : SessionState} (now : Int), P s -> P (s.tick now)

theorem SessionState.Kept.closeRequest {P : SessionState -> Prop} (kept : Kept P)
    {s : SessionState} (h : P s) (id : RequestId) : P (s.closeRequest id) := by
  unfold SessionState.closeRequest
  split
  · exact kept.dialog _ h
  · exact h

namespace Console

/-- A state that observers have seen. -/
def Seen (c : Console) (s : SessionState) : Prop :=
  s = c.state ∨ @Happening.published s ∈ c.journal

def Shows (P : SessionState -> Prop) (c : Console) : Prop :=
  forall s, c.Seen s -> P s

section

variable {P : SessionState -> Prop} {c : Console}

theorem Shows.now (h : c.Shows P) : P c.state :=
  h _ (.inl rfl)

/-! ## The journal -/

theorem Shows.write (h : c.Shows P) {entry : Happening}
    (silent : forall s, entry ≠ @Happening.published s) :
    Shows P { c with journal := entry :: c.journal } := by
  intro s seen
  rcases seen with rfl | mem
  · exact h.now
  · rcases List.mem_cons.1 mem with same | earlier
    · exact absurd same.symm (silent s)
    · exact h s (.inr earlier)

theorem Shows.say (h : c.Shows P) (message : Message) : (c.say message).Shows P :=
  h.write fun _ same => by cases same

theorem Shows.call (h : c.Shows P) (call : Call) : (c.call call).Shows P :=
  h.write fun _ same => by cases same

theorem Shows.sayAll (h : c.Shows P) (messages : List Message) : (c.sayAll messages).Shows P := by
  unfold Console.sayAll
  induction messages generalizing c with
  | nil => exact h
  | cons message rest ih => exact ih (h.say message)

theorem Shows.update (h : c.Shows P) {change : SessionState -> SessionState}
    (kept : P (change c.state)) : (c.update change).Shows P := by
  intro s seen
  rcases seen with rfl | mem
  · exact kept
  · rcases List.mem_cons.1 mem with same | earlier
    · cases same
      exact kept
    · exact h s (.inr earlier)

theorem Shows.settle {task : Nat} {p : Console × Progress} (h : p.1.Shows P) :
    (Console.settle task p).Shows P := by
  rcases p with ⟨c, _ | _⟩
  · exact h
  · exact h.write fun _ same => by cases same

theorem Shows.fail (h : c.Shows P) (what : String) (failure : Failure) :
    (c.fail what failure).Shows P := by
  unfold Console.fail
  split
  · exact h.say _
  · exact h.call _

theorem Shows.failGuarded (h : c.Shows P) (next : Guarded) (failure : Failure) :
    (c.failGuarded next failure).1.Shows P := by
  cases next with
  | nothing => exact h
  | _ => exact h.fail _ failure

/-! ## The dialog -/

variable (kept : SessionState.Kept P)
include kept

theorem Shows.requestConfirmation (h : c.Shows P) : c.requestConfirmation.1.Shows P := by
  unfold Console.requestConfirmation
  split
  · exact h.say _
  · apply Shows.say
    apply Shows.update (c := { c with gate := c.gate.accept }) h
    exact kept.dialog _ h.now

theorem Shows.deliver (h : c.Shows P) (id : RequestId) (verdict : Verdict) :
    (c.deliver id verdict).Shows P :=
  Shows.update h (kept.closeRequest h.now id)

theorem Shows.resolve (h : c.Shows P) (resolution : Resolution) :
    (c.resolve resolution).1.Shows P := by
  unfold Console.resolve
  split
  · exact h.deliver kept _ _
  · exact h.say _

theorem Shows.resolveRequest (h : c.Shows P) (id : RequestId) (resolution : Resolution) :
    (c.resolveRequest id resolution).1.Shows P := by
  unfold Console.resolveRequest
  split
  · exact h.deliver kept _ _
  · exact h.say _

theorem Shows.dismiss (h : c.Shows P) : c.dismiss.1.Shows P := by
  unfold Console.dismiss
  split
  · exact h.deliver kept _ _
  · exact h

theorem Shows.releaseRequest (h : c.Shows P) (id : RequestId) :
    (c.releaseRequest id).Shows P := by
  unfold Console.releaseRequest
  dsimp only
  split
  · exact Shows.update h (kept.closeRequest h.now id)
  · exact h

theorem Shows.collect? (h : c.Shows P) {id : RequestId} {expired : Bool}
    {result : Console × Except Failure Unit} (collected : c.collect? id expired = some result) :
    result.1.Shows P := by
  rcases Option.map_eq_some_iff.1 collected with ⟨⟨message, outcome⟩, _, rfl⟩
  exact (h.say message).releaseRequest kept id

/-! ## Parts of operations -/

theorem Shows.proceed (h : c.Shows P) (next : Guarded) : (c.proceed next).1.Shows P := by
  cases next with
  | nothing => exact h
  | create =>
      apply Shows.say
      apply h.update
      exact kept.editor _ h.now
  | openFile => exact h.call _
  | download => exact h.call _

theorem Shows.ask (h : c.Shows P) (next : Guarded) : (c.ask next).1.Shows P := by
  have requested := h.requestConfirmation kept
  unfold Console.ask
  split
  · rename_i result
    rw [result] at requested
    exact requested
  · rename_i result
    rw [result] at requested
    exact requested.failGuarded next _

theorem Shows.guarded (h : c.Shows P) (next : Guarded) : (c.guarded next).1.Shows P := by
  unfold Console.guarded
  split
  · exact h.ask kept next
  · exact h.proceed kept next

omit kept in
theorem Shows.save (h : c.Shows P) (purpose : SavePurpose) (saveAs : Bool) :
    (c.save purpose saveAs).1.Shows P := by
  unfold Console.save
  dsimp only
  split
  · exact h.call _
  · exact h.call _

theorem Shows.finishSave (h : c.Shows P) (purpose : SavePurpose) (result : Except Failure String) :
    (c.finishSave purpose result).1.Shows P := by
  cases purpose with
  | request => cases result <;> exact h
  | answer => cases result <;> exact h.resolve kept _

theorem Shows.modeSettled (h : c.Shows P) (mode : Mode) (answer : Except Failure Unit) :
    (c.modeSettled mode answer).1.Shows P := by
  cases answer with
  | error failure => exact (h.say _).call _
  | ok =>
      -- The mode is published before the log is opened.
      have said := h.sayAll (c.state.link.applyModeMessages mode)
      have changed : Shows P ((c.sayAll (c.state.link.applyModeMessages mode)).update fun s =>
          { s with link := s.link.applyMode mode }) := by
        apply said.update
        exact kept.mode mode said.now
      unfold Console.modeSettled
      dsimp only
      split
      · exact (changed.say _).call _
      · exact changed.say _

theorem Shows.begin (h : c.Shows P) (notice : Except Failure Unit) (operation : Operation) :
    (c.begin notice operation).1.Shows P := by
  cases operation with
  | confirm => exact h.ask kept .nothing
  | create => exact h.guarded kept .create
  | openFile => exact h.guarded kept .openFile
  | save saveAs => exact h.save .request saveAs
  | download => exact h.guarded kept .download
  | upload => exact h.call _
  | answer choice => cases choice with
    | discard => exact (h.say _).resolve kept .confirmed
    | save => exact (h.say _).save .answer false
    | cancel => exact (h.say _).resolve kept .cancelled
  | changeMode mode => cases mode with
    | emergencyStop => exact (h.call _).modeSettled kept _ notice
    | _ => exact h.call _

theorem Shows.resume (h : c.Shows P) (wait : Wait) (answer : wait.Reply) :
    (c.resume wait answer).1.Shows P := by
  cases wait with
  | confirmation id next => cases answer with
    | ok => exact h.proceed kept next
    | error failure => exact h.failGuarded next failure
  | openPath => cases answer with
    | none => exact h.failGuarded .openFile .aborted
    | some path => exact h.call _
  | readFile path => cases answer with
    | ok content =>
        apply (h.say _).update
        exact kept.editor _ h.now
    | error failure => exact h.failGuarded .openFile failure
  | download => cases answer with
    | ok content =>
        apply Shows.call
        apply Shows.say
        apply h.update
        exact kept.editor _ h.now
    | error failure => exact h.failGuarded .download failure
  | upload content => cases answer with
    | ok => exact (h.say _).call _
    | error failure => exact h.fail _ failure
  | savePath purpose content => cases answer with
    | none => exact (h.fail _ .aborted).finishSave kept purpose _
    | some path => exact h.call _
  | writeFile purpose path content => cases answer with
    | ok =>
        apply Shows.finishSave kept
        apply (h.say _).update
        exact kept.editor _ h.now
    | error failure => exact (h.fail _ failure).finishSave kept purpose _
  | invoke mode => exact h.modeSettled kept mode answer

/-! ## Moves -/

theorem Shows.reply (h : c.Shows P) (task : Nat) (wait : Wait) (answer : wait.Reply) :
    (c.reply task wait answer).Shows P := by
  unfold Console.reply
  split
  · exact (Shows.resume kept (c := c.removeTask task) h wait answer).settle
  · exact h

theorem Shows.wake (h : c.Shows P) (task : Nat) (expired : Bool) :
    (c.wake task expired).Shows P := by
  unfold Console.wake
  split
  · -- Releasing the request and going on publish one after the other.
    split
    · rename_i id next _ _ outcome collected
      exact (Shows.resume kept (c := removeTask _ task) (h.collect? kept collected) _ _).settle
    · exact h
  · exact h

theorem Shows.drop (h : c.Shows P) (task : Nat) : (c.drop task).1.Shows P := by
  have noted : Shows P { c.removeTask task with journal := .dropped task :: c.journal } :=
    h.write fun _ same => by cases same
  unfold Console.drop
  split
  · exact h
  · dsimp only
    split
    · exact noted.releaseRequest kept _
    · exact noted

theorem Shows.setAlliance (h : c.Shows P) (alliance : Option Alliance) :
    (c.setAlliance alliance).Shows P := by
  cases alliance with
  | none =>
      apply Shows.say
      apply h.update
      exact kept.alliance none h.now
  | some a =>
      apply Shows.say
      apply h.update
      exact kept.alliance (some a) h.now

theorem Shows.apply (h : c.Shows P) (now : Int) (event : TransportEvent) :
    (c.apply now event).Shows P := by
  cases event with
  | telemetry batch =>
      have said := h.sayAll (c.state.peripherals.snapshotMessages batch.kind batch.samples)
      apply Shows.say
      apply said.update
      exact kept.batch now batch said.now
  | log event =>
      have said := h.sayAll (c.state.link.noteLogMessages event)
      apply said.update
      exact kept.log event said.now

theorem Shows.tick (h : c.Shows P) (now : Int) : (c.tick now).Shows P := by
  have said := h.sayAll (c.state.link.tickMessages (c.state.link.tick now))
  apply said.update
  exact kept.tick now said.now

theorem Shows.step (h : c.Shows P) (m : Move) : (c.step m).Shows P := by
  cases m with
  | start operation notice =>
      exact (Shows.begin kept (c := { c with started := c.started + 1 }) h notice operation).settle
  | reply task wait answer => exact h.reply kept task wait answer
  | wake task expired => exact h.wake kept task expired
  | drop task => exact h.drop kept task
  | resolve resolution => exact h.resolve kept resolution
  | resolveRequest id resolution => exact h.resolveRequest kept id resolution
  | dismiss => exact h.dismiss kept
  | edit content =>
      apply h.update
      exact kept.editor _ h.now
  | setAlliance alliance => exact h.setAlliance kept alliance
  | apply now event => exact h.apply kept now event
  | tick now => exact h.tick kept now

theorem shows_play {settings : Settings} (initial : P (.fresh settings.health))
    (hasLogDisplay : Bool) (moves : List Move) :
    ((fresh settings hasLogDisplay).play moves).Shows P := by
  have start : (fresh settings hasLogDisplay).Shows P := by
    intro s seen
    rcases seen with rfl | mem
    · exact initial
    · cases mem
  exact play_keeps (P := Shows P) (fun _ m h => Shows.step kept h m) start moves

end

end Console
end RobotConsole
