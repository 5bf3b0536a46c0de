import RobotConsole.Console.Tasks

/-!
# Effects of operations

A part of an operation, from one wait to the next, writes into the journal and does
at most four things besides: it asks for a confirmation, changes the buffer, changes
the mode, and answers the dialog. An `Effect` lists them. The main results say that
what begins an operation and what resumes one does what its effect lists, and nothing
else outside the journal.
-/

namespace RobotConsole

/-! ## Effects -/

inductive BufferChange where
  /-- A text that is not saved anywhere locally. -/
  | unsaved (content : String)
  | emptied
  | opened (path content : String)
  /-- The content went to the file as the given text. -/
  | saved (path content text : String)
  deriving DecidableEq, Repr

def EditorState.change (e : EditorState) : BufferChange -> EditorState
  | .unsaved content => { e with content, dirty := true }
  | .emptied => {}
  | .opened path content => { path := some path, content, dirty := false }
  | .saved path content text => e.saved path content text

structure Effect where
  asks : Bool := false
  change : Option BufferChange := none
  mode : Option Mode := none
  answer : Option Resolution := none
  deriving DecidableEq, Repr

def Guarded.effect : Guarded -> Effect
  | .create => { change := some .emptied }
  | _ => {}

def Guarded.firstEffect (next : Guarded) (dirty : Bool) : Effect :=
  if dirty then { asks := true } else next.effect

/-- What an operation does when it begins, with a buffer that has unsaved changes or not. -/
def Operation.effect (dirty : Bool) (notice : Except Failure Unit) : Operation -> Effect
  | .confirm => { asks := true }
  | .create => Guarded.create.firstEffect dirty
  | .openFile => Guarded.openFile.firstEffect dirty
  | .download => Guarded.download.firstEffect dirty
  | .answer .discard => { answer := some .confirmed }
  | .answer .cancel => { answer := some .cancelled }
  | .changeMode .emergencyStop =>
      match notice with
      | .ok () => { mode := some .emergencyStop }
      | .error _ => {}
  | _ => {}

def SavePurpose.answer? (purpose : SavePurpose) (resolution : Resolution) : Option Resolution :=
  match purpose with
  | .request => none
  | .answer => some resolution

def Wait.effect (settings : EditorSettings) : (wait : Wait) -> wait.Reply -> Effect
  | .confirmation _ next, .ok () => next.effect
  | .readFile path, .ok content => { change := some (.opened path content) }
  | .download, .ok content => { change := some (.unsaved content) }
  | .savePath purpose _, none => { answer := purpose.answer? .cancelled }
  | .writeFile purpose path content, .ok () =>
      { change := some (.saved path content (Editor.normalize settings content))
        answer := purpose.answer? .confirmed }
  | .writeFile purpose _ _, .error _ => { answer := purpose.answer? .cancelled }
  | .invoke mode, .ok () => { mode := some mode }
  | _, _ => {}

/-! ## Asking and answering -/

theorem Operation.effect_answer {operation : Operation} {dirty : Bool} {notice : Except Failure Unit}
    (h : (operation.effect dirty notice).asks = true) :
    (operation.effect dirty notice).answer = none := by
  have guarded (next : Guarded) : (next.firstEffect dirty).answer = none := by
    unfold Guarded.firstEffect
    cases dirty <;> cases next <;> rfl
  cases operation with
  | confirm => rfl
  | create => exact guarded .create
  | openFile => exact guarded .openFile
  | save saveAs => rfl
  | download => exact guarded .download
  | upload => rfl
  | answer choice => cases choice <;> cases h
  | changeMode mode => cases mode with
    | emergencyStop => cases notice <;> rfl
    | auto => rfl
    | teleop => rfl
    | idle => rfl

theorem Wait.effect_asks (settings : EditorSettings) (wait : Wait) (answer : wait.Reply) :
    (wait.effect settings answer).asks = false := by
  cases wait with
  | confirmation id next => cases answer <;> cases next <;> rfl
  | openPath => cases answer <;> rfl
  | readFile path => cases answer <;> rfl
  | download => cases answer <;> rfl
  | upload content => cases answer <;> rfl
  | savePath purpose content => cases answer <;> rfl
  | writeFile purpose path content => cases answer <;> rfl
  | invoke mode => cases answer <;> rfl

theorem Wait.effect_confirmation (settings : EditorSettings) (id : RequestId) (next : Guarded)
    (outcome : Except Failure Unit) :
    (Wait.effect settings (.confirmation id next) outcome).answer = none := by
  cases outcome <;> cases next <;> rfl

/-! ## What beginning changes -/

theorem Guarded.effect_change (next : Guarded) :
    next.effect.change = none ∨ next.effect.change = some .emptied := by
  cases next with
  | create => exact .inr rfl
  | _ => exact .inl rfl

theorem Operation.effect_change (operation : Operation) (dirty : Bool) (notice : Except Failure Unit) :
    (operation.effect dirty notice).change = none ∨
      (operation.effect dirty notice).change = some .emptied := by
  have first (next : Guarded) : (next.firstEffect dirty).change = none ∨
      (next.firstEffect dirty).change = some .emptied := by
    unfold Guarded.firstEffect
    split
    · exact .inl rfl
    · exact next.effect_change
  cases operation with
  | create => exact first .create
  | openFile => exact first .openFile
  | download => exact first .download
  | answer choice => cases choice <;> exact .inl rfl
  | changeMode mode => cases mode with
    | emergencyStop => cases notice <;> exact .inl rfl
    | _ => exact .inl rfl
  | _ => exact .inl rfl

theorem Operation.effect_change_of_dirty (operation : Operation) (notice : Except Failure Unit) :
    (operation.effect true notice).change = none := by
  cases operation with
  | answer choice => cases choice <;> rfl
  | changeMode mode => cases mode with
    | emergencyStop => cases notice <;> rfl
    | _ => rfl
  | _ => rfl

namespace Console

/-- A new request is outstanding and shown, if the gate is free. -/
def ifFree (c : Console) : Console :=
  if c.gate.outstanding = none then
    { c with gate := c.gate.accept }.update fun s => s.showRequest c.gate.next
  else c

/-- The console with the buffer, the mode and the dialog as an effect leaves them. -/
def enact (c : Console) (e : Effect) : Console :=
  let c := if e.asks then c.ifFree else c
  let c := e.change.elim c fun change =>
    c.update fun s => { s with editor := s.editor.change change }
  let c := e.mode.elim c fun mode => c.update fun s => { s with link := s.link.applyMode mode }
  e.answer.elim c fun resolution => (c.resolve resolution).1

/-! ## The console but for its journal -/

section

variable (c : Console)

@[simp] theorem withoutJournal_say (m : Message) :
    (c.say m).withoutJournal = c.withoutJournal := rfl

@[simp] theorem withoutJournal_sayAll (ms : List Message) :
    (c.sayAll ms).withoutJournal = c.withoutJournal := by
  rw [sayAll_eq]
  rfl

@[simp] theorem withoutJournal_call (call : Call) :
    (c.call call).withoutJournal = c.withoutJournal := rfl

@[simp] theorem withoutJournal_fail (what : String) (failure : Failure) :
    (c.fail what failure).withoutJournal = c.withoutJournal := by
  unfold fail
  split <;> rfl

@[simp] theorem withoutJournal_failGuarded (next : Guarded) (failure : Failure) :
    (c.failGuarded next failure).1.withoutJournal = c.withoutJournal := by
  unfold failGuarded
  cases title? next with
  | none => rfl
  | some what => exact withoutJournal_fail c what failure

theorem withoutJournal_resolve {c c' : Console} (h : c.withoutJournal = c'.withoutJournal)
    (resolution : Resolution) :
    (c.resolve resolution).1.withoutJournal = (c'.resolve resolution).1.withoutJournal := by
  have forgets (c : Console) : (c.resolve resolution).1.withoutJournal =
      (c.withoutJournal.resolve resolution).1.withoutJournal := by
    have gate : c.withoutJournal.gate = c.gate := rfl
    unfold resolve
    rw [gate]
    cases c.gate.outstanding <;> rfl
  rw [forgets c, forgets c', h]

/-! ## What the parts of operations do -/

theorem proceed_effect (next : Guarded) :
    (c.proceed next).1.withoutJournal = (c.enact next.effect).withoutJournal := by
  cases next <;> rfl

theorem ask_effect (next : Guarded) :
    (c.ask next).1.withoutJournal = (c.enact { asks := true }).withoutJournal := by
  show _ = c.ifFree.withoutJournal
  unfold ask ifFree requestConfirmation
  cases c.gate.outstanding with
  | none => rfl
  | some id => simp

theorem confirmed_effect (id : RequestId) (next : Guarded) (answer : Except Failure Unit) :
    (c.confirmed next answer).1.withoutJournal =
      (c.enact (Wait.effect c.settings.editor (.confirmation id next) answer)).withoutJournal := by
  cases answer with
  | ok => exact proceed_effect c next
  | error failure => exact withoutJournal_failGuarded c next failure

theorem fileRead_effect (path : String) (answer : Except Failure String) :
    (c.fileRead path answer).1.withoutJournal =
      (c.enact (Wait.effect c.settings.editor (.readFile path) answer)).withoutJournal := by
  cases answer with
  | ok content => rfl
  | error failure => exact withoutJournal_failGuarded c .openFile failure

theorem downloaded_effect (answer : Except Failure String) :
    (c.downloaded answer).1.withoutJournal =
      (c.enact (Wait.effect c.settings.editor .download answer)).withoutJournal := by
  cases answer with
  | ok content => rfl
  | error failure => exact withoutJournal_failGuarded c .download failure

theorem failSave_effect (purpose : SavePurpose) (failure : Failure) :
    (c.failSave purpose failure).1.withoutJournal =
      (c.enact { answer := purpose.answer? .cancelled }).withoutJournal := by
  cases purpose with
  | request => exact withoutJournal_fail c "Save" failure
  | answer => exact withoutJournal_resolve (withoutJournal_fail c "Save" failure) .cancelled

theorem fileWritten_effect (purpose : SavePurpose) (path content : String)
    (answer : Except Failure Unit) :
    (c.fileWritten purpose path content answer).1.withoutJournal =
      (c.enact (Wait.effect c.settings.editor (.writeFile purpose path content)
        answer)).withoutJournal := by
  cases answer with
  | ok =>
      let saved (c : Console) : Console := c.update fun s =>
        { s with editor := s.editor.saved path content (c.savedText content) }
      cases purpose with
      | request => rfl
      | answer =>
          have same : (saved (c.say (.info ("Saved " ++ path)))).withoutJournal =
              (saved c).withoutJournal := rfl
          exact withoutJournal_resolve same .confirmed
  | error failure => exact failSave_effect c purpose failure

theorem modeSettled_effect (mode : Mode) (answer : Except Failure Unit) :
    (c.modeSettled mode answer).1.withoutJournal =
      (c.enact (Wait.effect c.settings.editor (.invoke mode) answer)).withoutJournal := by
  cases answer with
  | ok =>
      unfold modeSettled
      dsimp only
      split <;> simp [enact, Wait.effect, withoutJournal, update, sayAll_eq, say, call]
  | error failure => rfl

theorem resume_effect (wait : Wait) (answer : wait.Reply) :
    (c.resume wait answer).1.withoutJournal =
      (c.enact (wait.effect c.settings.editor answer)).withoutJournal := by
  cases wait with
  | confirmation id next => exact confirmed_effect c id next answer
  | openPath => cases answer <;> rfl
  | readFile path => exact fileRead_effect c path answer
  | download => exact downloaded_effect c answer
  | upload content => cases answer with
    | ok => rfl
    | error failure => exact withoutJournal_fail c "Upload" failure
  | savePath purpose content => cases answer with
    | none => exact failSave_effect c purpose .aborted
    | some path => rfl
  | writeFile purpose path content => exact fileWritten_effect c purpose path content answer
  | invoke mode => exact modeSettled_effect c mode answer

theorem guarded_effect (next : Guarded) :
    (c.guarded next).1.withoutJournal =
      (c.enact (next.firstEffect c.state.editor.dirty)).withoutJournal := by
  unfold guarded Guarded.firstEffect
  split
  · exact ask_effect c next
  · exact proceed_effect c next

@[simp] theorem withoutJournal_save (purpose : SavePurpose) (saveAs : Bool) :
    (c.save purpose saveAs).1.withoutJournal = c.withoutJournal := by
  unfold save
  dsimp only
  split <;> rfl

theorem answerDialog_effect (notice : Except Failure Unit) (choice : DialogChoice) :
    (c.answerDialog choice).1.withoutJournal =
      (c.enact (Operation.effect c.state.editor.dirty notice (.answer choice))).withoutJournal := by
  let c' := c.say (.debug ("Unsaved changes dialog answered: " ++ choice.title))
  have said : c'.withoutJournal = c.withoutJournal := rfl
  cases choice with
  | discard => exact withoutJournal_resolve said .confirmed
  | save => exact withoutJournal_save c' .answer false
  | cancel => exact withoutJournal_resolve said .cancelled

theorem changeMode_effect (notice : Except Failure Unit) (mode : Mode) :
    (c.changeMode mode notice).1.withoutJournal =
      (c.enact (Operation.effect c.state.editor.dirty notice
        (.changeMode mode))).withoutJournal := by
  cases mode with
  | emergencyStop =>
      have settled := modeSettled_effect
        (c.call (.notify executorService Mode.emergencyStop.name)) .emergencyStop notice
      cases notice <;> exact settled
  | auto => rfl
  | teleop => rfl
  | idle => rfl

theorem begin_effect (notice : Except Failure Unit) (operation : Operation) :
    (c.begin notice operation).1.withoutJournal =
      (c.enact (operation.effect c.state.editor.dirty notice)).withoutJournal := by
  cases operation with
  | confirm => exact ask_effect c .nothing
  | create => exact guarded_effect c .create
  | openFile => exact guarded_effect c .openFile
  | save saveAs => exact withoutJournal_save c .request saveAs
  | download => exact guarded_effect c .download
  | upload => rfl
  | answer choice => exact answerDialog_effect c notice choice
  | changeMode mode => exact changeMode_effect c notice mode

end

end Console
end RobotConsole
