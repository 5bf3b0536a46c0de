import RobotConsole.Proofs.Console.Effect

/-!
# How operations go on

What an operation waits for after each of its parts. A request for a confirmation is
made only by what begins an operation, and only while the gate is free.
-/

namespace RobotConsole

def Progress.wait? : Progress -> Option Wait
  | .waiting wait => some wait
  | .finished _ => none

def Guarded.wait? : Guarded -> Option Wait
  | .nothing => none
  | .create => none
  | .openFile => some .openPath
  | .download => some .download

def Wait.next? : (wait : Wait) -> wait.Reply -> Option Wait
  | .confirmation _ next, .ok () => next.wait?
  | .openPath, some path => some (.readFile path)
  | .savePath purpose content, some path => some (.writeFile purpose path content)
  | _, _ => none

/-- The request for whose end an operation waits. -/
def Wait.request? : Wait -> Option RequestId
  | .confirmation id _ => some id
  | _ => none

namespace Console

/-- The request that holds an operation up; there is none while the gate is taken. -/
def askWait? (c : Console) (next : Guarded) : Option Wait :=
  if c.gate.outstanding = none then some (.confirmation c.gate.next next) else none

def guardedWait? (c : Console) (next : Guarded) : Option Wait :=
  if c.state.editor.dirty then c.askWait? next else next.wait?

def saveWait (c : Console) (purpose : SavePurpose) (saveAs : Bool) : Wait :=
  match if saveAs then none else c.state.editor.path with
  | some path => .writeFile purpose path c.state.editor.content
  | none => .savePath purpose c.state.editor.content

def firstWait? (c : Console) : Operation -> Option Wait
  | .confirm => c.askWait? .nothing
  | .create => c.guardedWait? .create
  | .openFile => c.guardedWait? .openFile
  | .save saveAs => some (c.saveWait .request saveAs)
  | .download => c.guardedWait? .download
  | .upload => some (.upload c.state.editor.content)
  | .answer .save => some (c.saveWait .answer false)
  | .answer _ => none
  | .changeMode .emergencyStop => none
  | .changeMode mode => some (.invoke mode)

section

variable (c : Console)

theorem proceed_wait? (next : Guarded) : (c.proceed next).2.wait? = next.wait? := by
  cases next <;> rfl

theorem ask_wait? (next : Guarded) : (c.ask next).2.wait? = c.askWait? next := by
  unfold ask askWait? requestConfirmation
  cases c.gate.outstanding <;> rfl

theorem guarded_wait? (next : Guarded) : (c.guarded next).2.wait? = c.guardedWait? next := by
  unfold guarded guardedWait?
  split
  · exact ask_wait? c next
  · exact proceed_wait? c next

theorem finishSave_wait? (purpose : SavePurpose) (result : Except Failure String) :
    (c.finishSave purpose result).2.wait? = none := by
  cases purpose <;> cases result <;> rfl

theorem save_wait? (purpose : SavePurpose) (saveAs : Bool) :
    (c.save purpose saveAs).2.wait? = some (c.saveWait purpose saveAs) := by
  unfold save saveWait
  dsimp only
  cases (if saveAs = true then none else c.state.editor.path) <;> rfl

theorem modeSettled_wait? (mode : Mode) (answer : Except Failure Unit) :
    (c.modeSettled mode answer).2.wait? = none := by
  cases answer <;> rfl

theorem begin_wait? (notice : Except Failure Unit) (operation : Operation) :
    (c.begin notice operation).2.wait? = c.firstWait? operation := by
  cases operation with
  | confirm => exact ask_wait? c .nothing
  | create => exact guarded_wait? c .create
  | openFile => exact guarded_wait? c .openFile
  | save saveAs => exact save_wait? c .request saveAs
  | download => exact guarded_wait? c .download
  | upload => rfl
  | answer choice => cases choice with
    | discard => rfl
    | save => exact save_wait? _ .answer false
    | cancel => rfl
  | changeMode mode => cases mode with
    | emergencyStop => exact modeSettled_wait? _ .emergencyStop notice
    | auto => rfl
    | teleop => rfl
    | idle => rfl

theorem resume_wait? (wait : Wait) (answer : wait.Reply) :
    (c.resume wait answer).2.wait? = wait.next? answer := by
  cases wait with
  | confirmation id next => cases answer with
    | ok => exact proceed_wait? c next
    | error failure => rfl
  | openPath => cases answer <;> rfl
  | readFile path => cases answer <;> rfl
  | download => cases answer <;> rfl
  | upload content => cases answer <;> rfl
  | savePath purpose content => cases answer with
    | none => exact finishSave_wait? _ purpose _
    | some path => rfl
  | writeFile purpose path content => cases answer with
    | ok => exact finishSave_wait? _ purpose _
    | error failure => exact finishSave_wait? _ purpose _
  | invoke mode => exact modeSettled_wait? c mode answer

end

/-! ## Requests -/

def request? (c : Console) (task : Nat) : Option RequestId :=
  (c.wait? task).bind Wait.request?

end Console

theorem Guarded.wait?_request (next : Guarded) : next.wait?.bind Wait.request? = none := by
  cases next <;> rfl

theorem Wait.next?_request (wait : Wait) (answer : wait.Reply) :
    (wait.next? answer).bind Wait.request? = none := by
  cases wait with
  | confirmation id next => cases answer with
    | ok => exact next.wait?_request
    | error failure => rfl
  | openPath => cases answer <;> rfl
  | readFile path => cases answer <;> rfl
  | download => cases answer <;> rfl
  | upload content => cases answer <;> rfl
  | savePath purpose content => cases answer <;> rfl
  | writeFile purpose path content => cases answer <;> rfl
  | invoke mode => cases answer <;> rfl

namespace Console

theorem guardedWait?_request (c : Console) (next : Guarded) :
    (c.guardedWait? next).bind Wait.request? =
      if (next.firstEffect c.state.editor.dirty).asks ∧ c.gate.outstanding = none then
        some c.gate.next
      else none := by
  unfold guardedWait? askWait? Guarded.firstEffect
  split
  · split <;> simp_all [Wait.request?]
  · rw [next.wait?_request]
    cases next <;> simp [Guarded.effect]

theorem firstWait?_request (c : Console) (notice : Except Failure Unit)
    (operation : Operation) :
    (c.firstWait? operation).bind Wait.request? =
      if (operation.effect c.state.editor.dirty notice).asks ∧ c.gate.outstanding = none then
        some c.gate.next
      else none := by
  have save (purpose : SavePurpose) (saveAs : Bool) :
      (c.saveWait purpose saveAs).request? = none := by
    unfold saveWait
    split <;> rfl
  cases operation with
  | confirm =>
      simp only [firstWait?, askWait?, Operation.effect]
      split <;> simp_all [Wait.request?]
  | create => exact c.guardedWait?_request .create
  | openFile => exact c.guardedWait?_request .openFile
  | save saveAs => simpa [firstWait?, Operation.effect] using save .request saveAs
  | download => exact c.guardedWait?_request .download
  | upload => simp [firstWait?, Operation.effect, Wait.request?]
  | answer choice => cases choice with
    | discard => simp [firstWait?, Operation.effect]
    | save => simpa [firstWait?, Operation.effect] using save .answer false
    | cancel => simp [firstWait?, Operation.effect]
  | changeMode mode => cases mode with
    | emergencyStop => cases notice <;> simp [firstWait?, Operation.effect]
    | auto => simp [firstWait?, Operation.effect, Wait.request?]
    | teleop => simp [firstWait?, Operation.effect, Wait.request?]
    | idle => simp [firstWait?, Operation.effect, Wait.request?]

end Console
end RobotConsole
