import RobotConsole.Proofs.Console.Deeds

/-!
# What the user is told

An operation that goes on does not change the buffer and tells the user nothing; both are
left to the part that ends it. A failure is told once, unless the user chose to stop, and
that part changes nothing. Transfers that succeed are told too, and no other success is.
-/

namespace RobotConsole

def Call.error? : Call -> Option String
  | error message => some message
  | _ => none

def Call.success? : Call -> Option String
  | success message => some message
  | _ => none

/-! ## Subjects -/

/-- What an operation is about, from its start to its end. -/
inductive Subject where
  | confirmation
  | create
  | openFile
  | save
  | download
  | upload
  | mode (mode : Mode)

def Subject.title? : Subject -> Option String
  | create => some "New file"
  | openFile => some "Open"
  | save => some "Save"
  | download => some "Download"
  | upload => some "Upload"
  | _ => none

def Subject.errors (subject : Subject) : OperationResult -> List String
  | .ok _ => []
  | .error failure =>
      match subject with
      | .mode requested =>
          ["Could not switch to " ++ requested.label ++ ": " ++ failure.message]
      | _ =>
          subject.title?.elim [] fun what =>
            if failure = .aborted then [] else [what ++ " failed: " ++ failure.message]

def Subject.successes (subject : Subject) : OperationResult -> List String
  | .error _ => []
  | .ok _ =>
      match subject with
      | .download => ["Downloaded code from the robot"]
      | .upload => ["Uploaded code to the robot"]
      | _ => []

def Guarded.subject : Guarded -> Subject
  | nothing => .confirmation
  | create => .create
  | openFile => .openFile
  | download => .download

/-- The dialog is answered for the sake of a save. -/
def Operation.subject : Operation -> Subject
  | confirm => .confirmation
  | create => .create
  | openFile => .openFile
  | save _ => .save
  | download => .download
  | upload => .upload
  | answer _ => .save
  | changeMode mode => .mode mode

def Wait.subject : Wait -> Subject
  | confirmation _ next => next.subject
  | openPath => .openFile
  | readFile _ => .openFile
  | download => .download
  | upload _ => .upload
  | savePath .. => .save
  | writeFile .. => .save
  | invoke mode => .mode mode

/-! ## Parts that go on and parts that end -/

namespace Deed

def errors (deed : Deed) : List String :=
  deed.calls.filterMap Call.error?

def successes (deed : Deed) : List String :=
  deed.calls.filterMap Call.success?

structure GoesOn (deed : Deed) : Prop where
  waits : deed.result? = none
  change : deed.effect.change = none
  errors : deed.errors = []
  successes : deed.successes = []

structure Ends (deed : Deed) (subject : Subject) (result : OperationResult) : Prop where
  ended : deed.result? = some result
  change : forall failure, result = .error failure -> deed.effect.change = none
  errors : deed.errors = subject.errors result
  successes : deed.successes = subject.successes result

def LeadsTo (deed : Deed) (subject : Subject) : Option Wait -> Prop
  | some wait => wait.subject = subject ∧ deed.GoesOn
  | none => exists result, deed.Ends subject result

end Deed

section

variable {deed : Deed} {subject : Subject}

theorem Deed.leadsTo_of_ok {path? : Option String} (ended : deed.result? = some (.ok path?))
    (errors : deed.errors = []) (successes : deed.successes = subject.successes (.ok path?)) :
    deed.LeadsTo subject none := by
  refine ⟨.ok path?, ended, ?_, errors, successes⟩
  intro failure fails
  cases fails

theorem Failure.isAbort_iff {failure : Failure} : failure.isAbort ↔ failure = .aborted := by
  cases failure <;> simp [isAbort]

theorem Deed.leadsTo_of_report {what : String} {failure : Failure}
    (title : subject.title? = some what) (calls : deed.calls = report what failure)
    (change : deed.effect.change = none) (ended : deed.result? = some (.error failure)) :
    deed.LeadsTo subject none := by
  refine ⟨.error failure, ended, fun _ _ => change, ?_, ?_⟩
  · have told : subject.errors (.error failure) =
        if failure = .aborted then [] else [what ++ " failed: " ++ failure.message] := by
      cases subject <;> cases title <;> rfl
    rw [Deed.errors, calls, told, report]
    simp only [Failure.isAbort_iff]
    split <;> rfl
  · rw [Deed.successes, calls, report]
    split <;> rfl

end

namespace Console

section

variable (c : Console)

theorem refused_leadsTo (next : Guarded) (failure : Failure) :
    Deed.LeadsTo ⟨next.refusal failure, {}, some (.error failure)⟩ next.subject none := by
  cases next with
  | nothing => exact ⟨_, rfl, fun _ _ => rfl, rfl, rfl⟩
  | create => exact Deed.leadsTo_of_report rfl rfl rfl rfl
  | openFile => exact Deed.leadsTo_of_report rfl rfl rfl rfl
  | download => exact Deed.leadsTo_of_report rfl rfl rfl rfl

theorem proceeds_leadsTo (next : Guarded) :
    Deed.LeadsTo ⟨next.fetches c.settings.remote, next.effect, next.result?⟩ next.subject
      next.wait? := by
  cases next with
  | nothing => exact Deed.leadsTo_of_ok rfl rfl rfl
  | create => exact Deed.leadsTo_of_ok rfl rfl rfl
  | openFile => exact ⟨rfl, rfl, rfl, rfl, rfl⟩
  | download => exact ⟨rfl, rfl, rfl, rfl, rfl⟩

theorem asks_leadsTo (next : Guarded) :
    Deed.LeadsTo ⟨c.askCalls next, { asks := true }, c.askResult?⟩ next.subject
      (c.askWait? next) := by
  unfold askCalls askResult? askWait?
  cases c.gate.outstanding with
  | none => exact ⟨rfl, rfl, rfl, rfl, rfl⟩
  | some id =>
      rcases refused_leadsTo next .busy with ⟨result, ended, _, errors, successes⟩
      exact ⟨result, ended, fun _ _ => rfl, errors, successes⟩

theorem guarded_leadsTo (next : Guarded) :
    Deed.LeadsTo ⟨c.guardedCalls next, next.firstEffect c.state.editor.dirty,
      c.guardedResult? next⟩ next.subject (c.guardedWait? next) := by
  unfold guardedCalls Guarded.firstEffect guardedResult? guardedWait?
  cases c.state.editor.dirty with
  | true => exact asks_leadsTo c next
  | false => exact proceeds_leadsTo c next

theorem saves_leadsTo (purpose : SavePurpose) (saveAs : Bool) :
    Deed.LeadsTo ⟨[c.saveCall saveAs], {}, none⟩ .save (some (c.saveWait purpose saveAs)) := by
  unfold saveCall saveWait
  cases (if saveAs = true then none else c.state.editor.path) with
  | none => exact ⟨rfl, rfl, rfl, rfl, rfl⟩
  | some path => exact ⟨rfl, rfl, rfl, rfl, rfl⟩

theorem settled_leadsTo (first : List Call) (mode : Mode) (answer : Except Failure Unit)
    (effect : Effect) (errors : first.filterMap Call.error? = [])
    (successes : first.filterMap Call.success? = []) (change : effect.change = none) :
    Deed.LeadsTo ⟨first ++ c.nextCalls (.invoke mode) answer, effect,
      Wait.result? (.invoke mode) answer⟩ (.mode mode) none := by
  cases answer with
  | error failure =>
      refine ⟨_, rfl, fun _ _ => change, ?_, ?_⟩
      · rw [Deed.errors, List.filterMap_append, errors]
        rfl
      · rw [Deed.successes, List.filterMap_append, successes]
        rfl
  | ok =>
      refine Deed.leadsTo_of_ok rfl ?_ ?_
      · rw [Deed.errors, List.filterMap_append, errors, nextCalls]
        split <;> rfl
      · rw [Deed.successes, List.filterMap_append, successes, nextCalls]
        split <;> rfl

theorem firstDeed_leadsTo (notice : Except Failure Unit) (operation : Operation) :
    (c.firstDeed notice operation).LeadsTo operation.subject (c.firstWait? operation) := by
  cases operation with
  | confirm =>
      have silent : c.askCalls .nothing = [] := by
        unfold askCalls
        split <;> rfl
      have asks := asks_leadsTo c .nothing
      rwa [silent] at asks
  | create => exact guarded_leadsTo c .create
  | openFile => exact guarded_leadsTo c .openFile
  | save saveAs => exact saves_leadsTo c .request saveAs
  | download => exact guarded_leadsTo c .download
  | upload => exact ⟨rfl, rfl, rfl, rfl, rfl⟩
  | answer choice => cases choice with
    | discard => exact Deed.leadsTo_of_ok rfl rfl rfl
    | save => exact saves_leadsTo c .answer false
    | cancel => exact Deed.leadsTo_of_ok rfl rfl rfl
  | changeMode mode => cases mode with
    | emergencyStop =>
        refine settled_leadsTo c [_] .emergencyStop notice _ rfl rfl ?_
        cases notice <;> rfl
    | _ => exact ⟨rfl, rfl, rfl, rfl, rfl⟩

theorem nextDeed_leadsTo (wait : Wait) (answer : wait.Reply) :
    (c.nextDeed wait answer).LeadsTo wait.subject (wait.next? answer) := by
  cases wait with
  | confirmation id next => cases answer with
    | ok => exact proceeds_leadsTo c next
    | error failure => exact refused_leadsTo next failure
  | openPath => cases answer with
    | none => exact refused_leadsTo .openFile .aborted
    | some path => exact ⟨rfl, rfl, rfl, rfl, rfl⟩
  | readFile path => cases answer with
    | ok content => exact Deed.leadsTo_of_ok rfl rfl rfl
    | error failure => exact refused_leadsTo .openFile failure
  | download => cases answer with
    | ok content => exact Deed.leadsTo_of_ok rfl rfl rfl
    | error failure => exact refused_leadsTo .download failure
  | upload content => cases answer with
    | ok => exact Deed.leadsTo_of_ok rfl rfl rfl
    | error failure => exact Deed.leadsTo_of_report rfl rfl rfl rfl
  | savePath purpose content => cases answer with
    | none => exact Deed.leadsTo_of_report rfl rfl rfl rfl
    | some path => exact ⟨rfl, rfl, rfl, rfl, rfl⟩
  | writeFile purpose path content => cases answer with
    | ok => exact Deed.leadsTo_of_ok rfl rfl rfl
    | error failure => exact Deed.leadsTo_of_report rfl rfl rfl rfl
  | invoke mode =>
      refine settled_leadsTo c [] mode answer _ rfl rfl ?_
      cases answer <;> rfl

end

/-! ## Whole operations -/

/-- The deeds of an operation: parts after which it went on, and one that ended it if it came to
its end. -/
inductive Told (subject : Subject) : List Deed -> Option Wait -> Prop where
  | inProgress {deeds : List Deed} {wait? : Option Wait}
      (wentOn : forall deed, deed ∈ deeds -> deed.GoesOn)
      (fits : forall wait, wait? = some wait -> wait.subject = subject) : Told subject deeds wait?
  | finished {deeds : List Deed} {last : Deed} (result : OperationResult)
      (wentOn : forall deed, deed ∈ deeds -> deed.GoesOn)
      (ends : last.Ends subject result) : Told subject (deeds ++ [last]) none

section

variable {deeds : List Deed}

theorem told_append {subject : Subject} (wentOn : forall deed, deed ∈ deeds -> deed.GoesOn)
    {deed : Deed} {wait? : Option Wait} (leads : deed.LeadsTo subject wait?) :
    Told subject (deeds ++ [deed]) wait? := by
  cases wait? with
  | none =>
      rcases leads with ⟨result, ends⟩
      exact .finished result wentOn ends
  | some wait =>
      refine .inProgress ?_ (fun _ same => by cases same; exact leads.1)
      intro d member
      rcases List.mem_append.1 member with before | new
      · exact wentOn d before
      · cases List.mem_singleton.1 new
        exact leads.2

theorem Story.told {c : Console} {notice : Except Failure Unit} {operation : Operation}
    {wait? : Option Wait} (story : c.Story notice operation deeds wait?) :
    Told operation.subject deeds wait? := by
  induction story with
  | begun => exact told_append (List.forall_mem_nil Deed.GoesOn) (firstDeed_leadsTo c notice operation)
  | wentOn _ answer ih => cases ih with
    | inProgress wentOn fits =>
        have leads := nextDeed_leadsTo c _ answer
        rw [fits _ rfl] at leads
        exact told_append wentOn leads
  | dropped _ ih => cases ih with
    | inProgress wentOn fits => exact .inProgress wentOn (fun _ same => by cases same)

theorem results_of_wentOn (wentOn : forall deed, deed ∈ deeds -> deed.GoesOn) :
    deeds.filterMap Deed.result? = [] := by
  rw [List.filterMap_eq_nil_iff]
  intro deed member
  exact (wentOn deed member).waits

theorem errors_of_wentOn (wentOn : forall deed, deed ∈ deeds -> deed.GoesOn) :
    deeds.flatMap Deed.errors = [] := by
  rw [List.flatMap_eq_nil_iff]
  intro deed member
  exact (wentOn deed member).errors

theorem successes_of_wentOn (wentOn : forall deed, deed ∈ deeds -> deed.GoesOn) :
    deeds.flatMap Deed.successes = [] := by
  rw [List.flatMap_eq_nil_iff]
  intro deed member
  exact (wentOn deed member).successes

/-- What the user is told by all deeds of an operation together. -/
structure Account (subject : Subject) (deeds : List Deed) (results : List OperationResult) :
    Prop where
  once : results.length ≤ 1
  kept : (forall path?, results ≠ [.ok path?]) ->
    forall deed, deed ∈ deeds -> deed.effect.change = none
  errors : deeds.flatMap Deed.errors = results.flatMap subject.errors
  successes : deeds.flatMap Deed.successes = results.flatMap subject.successes

theorem Told.account {subject : Subject} {wait? : Option Wait} (h : Told subject deeds wait?) :
    Account subject deeds (deeds.filterMap Deed.result?) := by
  cases h with
  | inProgress wentOn fits =>
      rw [results_of_wentOn wentOn]
      constructor
      · exact Nat.zero_le 1
      · intro _ deed member
        exact (wentOn deed member).change
      · exact errors_of_wentOn wentOn
      · exact successes_of_wentOn wentOn
  | finished result wentOn ends =>
      rename_i earlier last
      have only : (earlier ++ [last]).filterMap Deed.result? = [result] := by
        simp [results_of_wentOn wentOn, ends.ended]
      rw [only]
      constructor
      · exact Nat.le_refl 1
      · intro fails deed member
        rcases List.mem_append.1 member with before | new
        · exact (wentOn deed before).change
        · cases List.mem_singleton.1 new
          cases result with
          | error failure => exact ends.change failure rfl
          | ok path? => exact absurd rfl (fails path?)
      · simp [errors_of_wentOn wentOn, ends.errors]
      · simp [successes_of_wentOn wentOn, ends.successes]

end

/-- Whatever goes on beside it, an operation has at most one result, and unless that is a success
none of its parts has changed the buffer. For each result the user was told what belongs to it: of
a failed editing operation once why it failed, if the user did not choose to stop, and of a
transfer that succeeded once that it did. Moves that run no operation tell nothing. -/
theorem failed_operation_keeps_buffer_and_is_told_once (settings : Settings)
    (hasLogDisplay : Bool) (before : List Move) (operation : Operation)
    (notice : Except Failure Unit) (after : List Move) :
    let c := (fresh settings hasLogDisplay).play before
    let run := Move.start operation notice :: after
    let task := c.started + 1
    let results := c.resultsBy run task
    results.length ≤ 1 ∧
    ((forall path?, results ≠ [.ok path?]) ->
      forall buffers, buffers ∈ c.buffersBy run task -> buffers.2 = buffers.1) ∧
    (c.callsBy run task).filterMap Call.error? = results.flatMap operation.subject.errors ∧
    (c.callsBy run task).filterMap Call.success? =
      results.flatMap operation.subject.successes ∧
    (forall m, c.runs? m = none -> c.newCalls m = []) := by
  intro c run task results
  have numbered : c.Numbered := (numbered_fresh settings hasLogDisplay).play before
  have account := (story_play numbered operation notice after).told.account
  rw [← resultsBy_eq] at account
  refine ⟨account.once, ?_, ?_, ?_, ?_⟩
  · intro fails
    exact buffersBy_kept c run task (account.kept fails)
  · rw [callsBy_eq, List.filterMap_flatMap]
    exact account.errors
  · rw [callsBy_eq, List.filterMap_flatMap]
    exact account.successes
  · intro m idle
    rw [newCalls_eq, Option.map_eq_none_iff.1 idle]
    rfl

end Console
end RobotConsole
