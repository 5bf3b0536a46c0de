import RobotConsole.Proofs.Console.Run

/-!
# Calls and results

What the parts of operations show to the outside: the calls that they make on the
collaborators, and the results with which operations end. Both are read off the journal.
Here are the calls and the result of every part, for what begins an operation and for
what resumes one; a part writes no result itself.
-/

namespace RobotConsole

def Happening.call? : Happening -> Option Call
  | called call => some call
  | _ => none

def Happening.result? : Happening -> Option (Nat × OperationResult)
  | ended task result => some (task, result)
  | _ => none

/-! ## What parts of operations call -/

def report (what : String) (failure : Failure) : List Call :=
  if failure.isAbort then [] else [.error (what ++ " failed: " ++ failure.message)]

def Guarded.refusal (next : Guarded) (failure : Failure) : List Call :=
  (Console.title? next).elim [] fun what => report what failure

theorem error_of_mem_report {what : String} {failure : Failure} {call : Call}
    (member : call ∈ report what failure) : exists message, call = .error message := by
  unfold report at member
  split at member
  · cases member
  · exact ⟨_, List.mem_singleton.1 member⟩

theorem error_of_mem_refusal {next : Guarded} {failure : Failure} {call : Call}
    (member : call ∈ next.refusal failure) : exists message, call = .error message := by
  unfold Guarded.refusal at member
  cases title : Console.title? next with
  | none =>
      rw [title] at member
      cases member
  | some what =>
      rw [title] at member
      exact error_of_mem_report member

def Guarded.fetches (remote : RemoteSettings) : Guarded -> List Call
  | openFile => [.openPath]
  | download => [.download remote]
  | _ => []

def Guarded.result? : Guarded -> Option OperationResult
  | nothing => some (.ok none)
  | create => some (.ok none)
  | _ => none

def SavePurpose.result (purpose : SavePurpose) (path : String) : Option String :=
  match purpose with
  | .request => some path
  | .answer => none

def Wait.result? : (wait : Wait) -> wait.Reply -> Option OperationResult
  | .confirmation _ next, .ok () => next.result?
  | .confirmation _ _, .error failure => some (.error failure)
  | .openPath, none => some (.error .aborted)
  | .readFile _, answer => some (answer.map fun _ => none)
  | .download, answer => some (answer.map fun _ => none)
  | .upload _, answer => some (answer.map fun _ => none)
  | .savePath _ _, none => some (.error .aborted)
  | .writeFile purpose path _, answer => some (answer.map fun _ => purpose.result path)
  | .invoke _, .ok () => some (.ok none)
  | .invoke mode, .error failure => some (.error (Console.requestFailure mode failure))
  | _, _ => none

def Progress.result? : Progress -> Option OperationResult
  | waiting _ => none
  | finished result => some result

namespace Console

def calls (c : Console) : List Call :=
  c.happenings.filterMap Happening.call?

def results (c : Console) : List (Nat × OperationResult) :=
  c.happenings.filterMap Happening.result?

def nextCalls (c : Console) : (wait : Wait) -> wait.Reply -> List Call
  | .confirmation _ next, .ok () => next.fetches c.settings.remote
  | .confirmation _ next, .error failure => next.refusal failure
  | .openPath, some path => [.read path]
  | .readFile _, .error failure => report "Open" failure
  | .download, .ok _ => [.success "Downloaded code from the robot"]
  | .download, .error failure => report "Download" failure
  | .upload _, .ok () => [.success "Uploaded code to the robot"]
  | .upload _, .error failure => report "Upload" failure
  | .savePath _ content, some path => [.write path (c.savedText content)]
  | .writeFile .., .error failure => report "Save" failure
  | .invoke mode, .ok () => if c.opensLog mode then [.openLog] else []
  | .invoke mode, .error failure =>
      [.error ("Could not switch to " ++ mode.label ++ ": " ++
        (requestFailure mode failure).message)]
  | _, _ => []

def askCalls (c : Console) (next : Guarded) : List Call :=
  if c.gate.outstanding = none then [] else next.refusal .busy

def askResult? (c : Console) : Option OperationResult :=
  if c.gate.outstanding = none then none else some (.error .busy)

def guardedCalls (c : Console) (next : Guarded) : List Call :=
  if c.state.editor.dirty then c.askCalls next else next.fetches c.settings.remote

def guardedResult? (c : Console) (next : Guarded) : Option OperationResult :=
  if c.state.editor.dirty then c.askResult? else next.result?

def saveCall (c : Console) (saveAs : Bool) : Call :=
  match if saveAs then none else c.state.editor.path with
  | some path => .write path (c.savedText c.state.editor.content)
  | none => .savePath c.state.editor.path

def firstCalls (c : Console) (notice : Except Failure Unit) : Operation -> List Call
  | .confirm => []
  | .create => c.guardedCalls .create
  | .openFile => c.guardedCalls .openFile
  | .save saveAs => [c.saveCall saveAs]
  | .download => c.guardedCalls .download
  | .upload => [.upload c.settings.remote c.state.editor.content]
  | .answer .save => [c.saveCall false]
  | .answer _ => []
  | .changeMode .emergencyStop =>
      .notify executorService Mode.emergencyStop.name ::
        c.nextCalls (.invoke .emergencyStop) notice
  | .changeMode mode => [.invoke executorService mode.name]

def firstResult? (c : Console) (notice : Except Failure Unit) :
    Operation -> Option OperationResult
  | .confirm => c.askResult?
  | .create => c.guardedResult? .create
  | .openFile => c.guardedResult? .openFile
  | .save _ => none
  | .download => c.guardedResult? .download
  | .upload => none
  | .answer .save => none
  | .answer _ => some (.ok none)
  | .changeMode .emergencyStop => Wait.result? (.invoke .emergencyStop) notice
  | .changeMode _ => none

/-! ## Writing in the journal -/

/-- A console that wrote on in the journal: some calls, and no result. -/
structure Wrote (c c' : Console) (calls : List Call) : Prop where
  calls : c'.calls = c.calls ++ calls
  results : c'.results = c.results

section

variable {c c' c'' : Console}

theorem Wrote.of_same (same : c'.journal = c.journal) : Wrote c c' [] := by
  constructor
  · simp [Console.calls, happenings, same]
  · simp [Console.results, happenings, same]

theorem Wrote.then {first second : List Call} (h : Wrote c c' first) (h' : Wrote c' c'' second) :
    Wrote c c'' (first ++ second) := by
  constructor
  · rw [h'.calls, h.calls, List.append_assoc]
  · rw [h'.results, h.results]

theorem Wrote.quietly {calls : List Call} (h : Wrote c c' calls) (h' : Wrote c' c'' []) :
    Wrote c c'' calls := by
  have both := h.then h'
  rwa [List.append_nil] at both

end

section

variable (c : Console)

theorem calls_happen (happening : Happening) :
    ({ c with journal := happening :: c.journal } : Console).calls =
      c.calls ++ happening.call?.toList := by
  unfold calls happenings
  rw [List.reverse_cons, List.filterMap_append]
  cases happening <;> rfl

theorem results_happen (happening : Happening) :
    ({ c with journal := happening :: c.journal } : Console).results =
      c.results ++ happening.result?.toList := by
  unfold results happenings
  rw [List.reverse_cons, List.filterMap_append]
  cases happening <;> rfl

theorem wrote_say (m : Message) : Wrote c (c.say m) [] :=
  ⟨calls_happen c (.said m), (results_happen c (.said m)).trans (List.append_nil _)⟩

theorem wrote_call (call : Call) : Wrote c (c.call call) [call] :=
  ⟨calls_happen c (.called call), (results_happen c (.called call)).trans (List.append_nil _)⟩

theorem wrote_update (change : SessionState -> SessionState) : Wrote c (c.update change) [] := by
  let published : Happening := @Happening.published (change c.state)
  exact ⟨calls_happen c published, (results_happen c published).trans (List.append_nil _)⟩

theorem wrote_sayAll (messages : List Message) : Wrote c (c.sayAll messages) [] := by
  unfold sayAll
  induction messages generalizing c with
  | nil => exact .of_same rfl
  | cons message rest ih => exact (wrote_say c message).quietly (ih (c.say message))

theorem wrote_fail (what : String) (failure : Failure) :
    Wrote c (c.fail what failure) (report what failure) := by
  unfold fail report
  split
  · exact wrote_say c _
  · exact wrote_call c _

theorem wrote_failGuarded (next : Guarded) (failure : Failure) :
    Wrote c (c.failGuarded next failure).1 (next.refusal failure) := by
  unfold failGuarded Guarded.refusal
  cases title? next with
  | none => exact .of_same rfl
  | some what => exact wrote_fail c what failure

/-! ## The dialog -/

theorem wrote_deliver (id : RequestId) (verdict : Verdict) :
    Wrote c (c.deliver id verdict) [] := by
  have taken : Wrote c { c with gate := c.gate.deliver id verdict } [] := .of_same rfl
  exact taken.quietly (wrote_update _ _)

theorem wrote_resolve (resolution : Resolution) : Wrote c (c.resolve resolution).1 [] := by
  unfold resolve
  split
  · exact wrote_deliver c _ _
  · exact wrote_say c _

theorem wrote_resolveRequest (id : RequestId) (resolution : Resolution) :
    Wrote c (c.resolveRequest id resolution).1 [] := by
  unfold resolveRequest
  split
  · exact wrote_deliver c _ _
  · exact wrote_say c _

theorem wrote_dismiss : Wrote c c.dismiss.1 [] := by
  unfold dismiss
  split
  · exact wrote_deliver c _ _
  · exact .of_same rfl

theorem wrote_releaseRequest (id : RequestId) : Wrote c (c.releaseRequest id) [] := by
  have forgot : Wrote c { c with gate := c.gate.forget id } [] := .of_same rfl
  unfold releaseRequest
  dsimp only
  split
  · exact forgot.quietly (wrote_update _ _)
  · exact forgot

/-! ## Parts of operations -/

theorem wrote_proceed (next : Guarded) :
    Wrote c (c.proceed next).1 (next.fetches c.settings.remote) := by
  cases next with
  | nothing => exact .of_same rfl
  | create => exact (wrote_update c _).quietly (wrote_say _ _)
  | openFile => exact wrote_call c _
  | download => exact wrote_call c _

theorem wrote_ask (next : Guarded) : Wrote c (c.ask next).1 (c.askCalls next) := by
  have accepted : Wrote c { c with gate := c.gate.accept } [] := .of_same rfl
  have shown := accepted.quietly (wrote_update _ fun s => s.showRequest c.gate.next)
  unfold ask requestConfirmation askCalls
  cases c.gate.outstanding with
  | none => exact shown.quietly (wrote_say _ _)
  | some id => exact (wrote_say c _).then (wrote_failGuarded _ next .busy)

theorem wrote_guarded (next : Guarded) : Wrote c (c.guarded next).1 (c.guardedCalls next) := by
  unfold guarded guardedCalls
  split
  · exact wrote_ask c next
  · exact wrote_proceed c next

theorem wrote_save (purpose : SavePurpose) (saveAs : Bool) :
    Wrote c (c.save purpose saveAs).1 [c.saveCall saveAs] := by
  unfold save saveCall
  dsimp only
  cases (if saveAs = true then none else c.state.editor.path) with
  | none => exact wrote_call c _
  | some path => exact wrote_call c _

theorem wrote_finishSave (purpose : SavePurpose) (result : Except Failure String) :
    Wrote c (c.finishSave purpose result).1 [] := by
  cases purpose with
  | request => cases result <;> exact .of_same rfl
  | answer => cases result <;> exact wrote_resolve c _

theorem wrote_modeSettled (mode : Mode) (answer : Except Failure Unit) :
    Wrote c (c.modeSettled mode answer).1 (c.nextCalls (.invoke mode) answer) := by
  cases answer with
  | error failure => exact (wrote_say c _).then (wrote_call _ _)
  | ok =>
      have said := wrote_sayAll c (c.state.link.applyModeMessages mode)
      have changed := said.quietly (wrote_update _ fun s =>
        { s with link := s.link.applyMode mode })
      have told := changed.quietly (wrote_say _ (.info ("Mode changed to " ++ mode.label)))
      let c' := ((c.sayAll (c.state.link.applyModeMessages mode)).update fun s =>
        { s with link := s.link.applyMode mode }).say (.info ("Mode changed to " ++ mode.label))
      have opens : c'.opensLog mode = c.opensLog mode := by
        simp [c', opensLog]
      show Wrote c (if c'.opensLog mode then c'.call .openLog else c')
        (if c.opensLog mode then [.openLog] else [])
      rw [opens]
      by_cases opened : c.opensLog mode = true
      · rw [if_pos opened, if_pos opened]
        exact told.then (wrote_call c' .openLog)
      · rw [if_neg opened, if_neg opened]
        exact told

theorem wrote_begin (notice : Except Failure Unit) (operation : Operation) :
    Wrote c (c.begin notice operation).1 (c.firstCalls notice operation) := by
  cases operation with
  | confirm =>
      have asked := wrote_ask c .nothing
      have silent : c.askCalls .nothing = [] := by
        unfold askCalls
        split <;> rfl
      rwa [silent] at asked
  | create => exact wrote_guarded c .create
  | openFile => exact wrote_guarded c .openFile
  | save saveAs => exact wrote_save c .request saveAs
  | download => exact wrote_guarded c .download
  | upload => exact wrote_call c _
  | answer choice => cases choice with
    | discard => exact (wrote_say c _).quietly (wrote_resolve _ .confirmed)
    | save => exact (wrote_say c _).then (wrote_save _ .answer false)
    | cancel => exact (wrote_say c _).quietly (wrote_resolve _ .cancelled)
  | changeMode mode => cases mode with
    | emergencyStop => exact (wrote_call c _).then (wrote_modeSettled _ .emergencyStop notice)
    | _ => exact wrote_call c _

theorem wrote_resume (wait : Wait) (answer : wait.Reply) :
    Wrote c (c.resume wait answer).1 (c.nextCalls wait answer) := by
  cases wait with
  | confirmation id next => cases answer with
    | ok => exact wrote_proceed c next
    | error failure => exact wrote_failGuarded c next failure
  | openPath => cases answer with
    | none => exact wrote_failGuarded c .openFile .aborted
    | some path => exact wrote_call c _
  | readFile path => cases answer with
    | ok content =>
        have opened := (wrote_say c (.info ("Opened " ++ path))).quietly (wrote_update _ fun s =>
          { s with editor := { path := some path, content, dirty := false } })
        exact opened
    | error failure => exact wrote_failGuarded c .openFile failure
  | download => cases answer with
    | ok content =>
        exact ((wrote_update c _).quietly (wrote_say _ _)).then (wrote_call _ _)
    | error failure => exact wrote_failGuarded c .download failure
  | upload content => cases answer with
    | ok => exact (wrote_say c _).then (wrote_call _ _)
    | error failure => exact wrote_fail c "Upload" failure
  | savePath purpose content => cases answer with
    | none => exact (wrote_fail c "Save" .aborted).quietly (wrote_finishSave _ purpose _)
    | some path => exact wrote_call c _
  | writeFile purpose path content => cases answer with
    | ok =>
        have saved := (wrote_say c (.info ("Saved " ++ path))).quietly (wrote_update _ fun s =>
          { s with editor := s.editor.saved path content (c.savedText content) })
        exact saved.quietly (wrote_finishSave _ purpose _)
    | error failure =>
        exact (wrote_fail c "Save" failure).quietly (wrote_finishSave _ purpose _)
  | invoke mode => exact wrote_modeSettled c mode answer

/-! ## How parts of operations end -/

theorem proceed_result? (next : Guarded) : (c.proceed next).2.result? = next.result? := by
  cases next <;> rfl

theorem ask_result? (next : Guarded) : (c.ask next).2.result? = c.askResult? := by
  unfold ask askResult? requestConfirmation
  cases c.gate.outstanding <;> rfl

theorem guarded_result? (next : Guarded) :
    (c.guarded next).2.result? = c.guardedResult? next := by
  unfold guarded guardedResult?
  split
  · exact ask_result? c next
  · exact proceed_result? c next

theorem save_result? (purpose : SavePurpose) (saveAs : Bool) :
    (c.save purpose saveAs).2.result? = none := by
  unfold save
  dsimp only
  split <;> rfl

theorem begin_result? (notice : Except Failure Unit) (operation : Operation) :
    (c.begin notice operation).2.result? = c.firstResult? notice operation := by
  cases operation with
  | confirm => exact ask_result? c .nothing
  | create => exact guarded_result? c .create
  | openFile => exact guarded_result? c .openFile
  | save saveAs => exact save_result? c .request saveAs
  | download => exact guarded_result? c .download
  | upload => rfl
  | answer choice => cases choice with
    | discard => rfl
    | save => exact save_result? _ .answer false
    | cancel => rfl
  | changeMode mode => cases mode with
    | emergencyStop => cases notice <;> rfl
    | _ => rfl

theorem resume_result? (wait : Wait) (answer : wait.Reply) :
    (c.resume wait answer).2.result? = wait.result? answer := by
  cases wait with
  | confirmation id next => cases answer with
    | ok => exact proceed_result? c next
    | error failure => rfl
  | savePath purpose content => cases answer with
    | none => cases purpose <;> rfl
    | some path => rfl
  | writeFile purpose path content => cases answer <;> cases purpose <;> rfl
  | _ => cases answer <;> rfl

end

end Console
end RobotConsole
