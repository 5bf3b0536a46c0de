import RobotConsole.Proofs.Console.Link
import RobotConsole.Proofs.Console.Notices

/-!
# Mode changes

Mode changes do not wait for each other. Each one sends a single request, and the reply to
that request settles it, whatever else happens in between: with success the mode is applied
to the link as it is then, and with a failure nothing is. An emergency stop is settled in
the move that starts it.
-/

namespace RobotConsole

namespace Mode

def method : Mode -> String
  | auto => "auto"
  | teleop => "teleop"
  | idle => "idle"
  | emergencyStop => "estop"

/-- The request that a mode change sends; an emergency stop waits for no reply. -/
def request (mode : Mode) : Call :=
  match mode with
  | emergencyStop => .notify "executor-service" mode.method
  | _ => .invoke "executor-service" mode.method

/-- Every failure of a mode change is one of its request, unless it is one of a request already. -/
def failedRequest (mode : Mode) : Failure -> Failure
  | .request service method message => .request service method message
  | other => .request "executor-service" mode.method other.message

theorem requestFailure_eq (mode : Mode) (failure : Failure) :
    Console.requestFailure mode failure = mode.failedRequest failure := by
  cases mode <;> cases failure <;> rfl

theorem isActive_iff (mode : Mode) : mode.isActive ↔ mode = auto ∨ mode = teleop := by
  cases mode <;> simp [isActive]

end Mode

namespace Console

def settledCalls (c : Console) (mode : Mode) : Except Failure Unit -> List Call
  | .ok () =>
      if (mode = .auto ∨ mode = .teleop) ∧ c.settings.control.openLogOnRun ∧ c.hasLogDisplay then
        [.openLog]
      else []
  | .error failure =>
      [.error ("Could not switch to " ++ mode.label ++ ": " ++
        (mode.failedRequest failure).message)]

def settledResult (mode : Mode) : Except Failure Unit -> OperationResult
  | .ok () => .ok none
  | .error failure => .error (mode.failedRequest failure)

def settledState (s : SessionState) (mode : Mode) : Except Failure Unit -> SessionState
  | .ok () => { s with link := s.link.applyMode mode }
  | .error _ => s

def settlements (c : Console) (moves : List Move) (task : Nat) :
    List (Mode × Except Failure Unit) :=
  ofTask task (c.trace settled? moves)

/-! ## What settling changes -/

section

variable {c : Console} {task : Nat} {m : Move} {mode : Mode} {answer : Except Failure Unit}

theorem settledCalls_eq : c.nextCalls (.invoke mode) answer = c.settledCalls mode answer := by
  cases answer with
  | ok => simp [nextCalls, settledCalls, opensLog, ← Mode.isActive_iff, and_assoc]
  | error failure => rw [nextCalls, settledCalls, Mode.requestFailure_eq]

theorem settledResult_eq :
    Wait.result? (.invoke mode) answer = some (settledResult mode answer) := by
  cases answer with
  | ok => rfl
  | error failure => rw [Wait.result?, settledResult, Mode.requestFailure_eq]

theorem settled_cases (settled : c.settled? m = some (task, mode, answer)) :
    (mode = .emergencyStop ∧ m = .start (.changeMode mode) answer ∧ task = c.started + 1) ∨
      (m = .reply task (.invoke mode) answer ∧ c.wait? task = some (.invoke mode)) := by
  cases m with
  | start operation notice => cases operation with
    | changeMode requested => cases requested with
      | emergencyStop =>
          cases settled
          exact .inl ⟨rfl, rfl, rfl⟩
      | _ => cases settled
    | _ => cases settled
  | reply mover wait reply => cases wait with
    | invoke requested =>
        simp only [settled?] at settled
        split at settled
        · rename_i waits
          cases settled
          exact .inr ⟨rfl, waits⟩
        · cases settled
    | _ => cases settled
  | _ => cases settled

/-- Success applies the mode and does no more to the session, and failure does nothing. -/
theorem state_of_settled (settled : c.settled? m = some (task, mode, answer)) :
    (c.step m).state = settledState c.state mode answer := by
  rw [step_state]
  rcases settled_cases settled with ⟨rfl, rfl, _⟩ | ⟨rfl, waits⟩
  · cases answer <;> rfl
  · have effect : c.effect (.reply task (.invoke mode) answer) =
        Wait.effect c.settings.editor (.invoke mode) answer := if_pos ⟨rfl, waits⟩
    simp only [outcomeOf, effect]
    cases answer <;> rfl

theorem settled?_of_resumed (resumed : c.resumed? m = some (task, ⟨.invoke mode, answer⟩)) :
    c.settled? m = some (task, mode, answer) := by
  cases m with
  | reply mover wait reply =>
      simp only [resumed?] at resumed
      split at resumed
      · rename_i applies
        cases resumed
        exact if_pos applies.2
      · cases resumed
  | wake mover expired =>
      rcases Option.map_eq_some_iff.1 resumed with ⟨collected, _, same⟩
      cases same
  | _ => cases resumed

theorem deed?_of_settled (settled : c.settled? m = some (task, mode, answer)) :
    exists deed, c.deed? m = some (task, deed) := by
  rcases settled_cases settled with ⟨_, rfl, rfl⟩ | ⟨rfl, waits⟩
  · exact ⟨_, rfl⟩
  · exact ⟨_, if_pos ⟨rfl, waits⟩⟩

theorem ofTask_settled (idle : ofTask task (c.deed? m).toList = []) :
    ofTask task (c.settled? m).toList = [] := by
  cases settled : c.settled? m with
  | none => rfl
  | some entry =>
      rcases entry with ⟨mover, mode, answer⟩
      rcases deed?_of_settled settled with ⟨deed, found⟩
      by_cases mine : mover = task
      · simp [found, ofTask, mine] at idle
      · simp [ofTask, mine]

end

/-! ## One mode change -/

/-- How far a mode change has come in a run, with its calls, its results and what settled it. -/
inductive Changing (c : Console) (mode : Mode) (task : Nat) (moves : List Move) :
    List Call -> List OperationResult -> List (Mode × Except Failure Unit) -> Option Wait ->
      Prop where
  | waiting : Changing c mode task moves [mode.request] [] [] (some (.invoke mode))
  | dropped (drops : Move.drop task ∈ moves) :
      Changing c mode task moves [mode.request] [] [] none
  | settled (answer : Except Failure Unit) :
      Changing c mode task moves (mode.request :: c.settledCalls mode answer)
        [settledResult mode answer] [(mode, answer)] none

section

variable {c : Console} {mode : Mode} {task : Nat} {moves : List Move}

theorem Changing.step {c' : Console} {calls : List Call} {results : List OperationResult}
    {settled : List (Mode × Except Failure Unit)}
    (h : c.Changing mode task moves calls results settled (c'.wait? task))
    (numbered : c'.Numbered) (known : task ≤ c'.started) (settings : c'.settings = c.settings)
    (display : c'.hasLogDisplay = c.hasLogDisplay) (m : Move) :
    c.Changing mode task (moves ++ [m])
      (calls ++ (ofTask task (c'.deed? m).toList).flatMap Deed.calls)
      (results ++ (ofTask task (c'.deed? m).toList).filterMap Deed.result?)
      (settled ++ ofTask task (c'.settled? m).toList) ((c'.step m).wait? task) := by
  generalize before : c'.wait? task = wait? at h
  -- Only a mode change that still waits can take its turn; the others are over for good.
  cases h with
  | waiting => cases turnOf numbered known before m with
    | goesOn answer resumed deed after =>
        have changed : c.Changing mode task (moves ++ [m]) _ _ _ _ := .settled answer
        rw [deed, after, settled?_of_resumed resumed, nextDeed_congr settings display]
        simpa [ofTask, nextDeed, settledCalls_eq, settledResult_eq, Wait.next?] using changed
    | dropped drops deed after =>
        have idle : ofTask task (c'.deed? m).toList = [] := by
          rw [deed]
          rfl
        rw [ofTask_settled idle, idle, after]
        exact .dropped (by simp [drops])
    | waitsOn idle after =>
        rw [ofTask_settled idle, idle, after]
        exact .waiting
  | dropped drops =>
      rcases stays_over numbered known before m with ⟨idle, after⟩
      rw [ofTask_settled idle, idle, after]
      exact .dropped (List.mem_append_left _ drops)
  | settled answer =>
      rcases stays_over numbered known before m with ⟨idle, after⟩
      have changed : c.Changing mode task (moves ++ [m]) _ _ _ _ := .settled answer
      rw [ofTask_settled idle, idle, after]
      simpa using changed

theorem changing_play (numbered : c.Numbered) (mode : Mode) (notice : Except Failure Unit)
    (after : List Move) :
    let run := Move.start (.changeMode mode) notice :: after
    let task := c.started + 1
    c.Changing mode task run (c.callsBy run task) (c.resultsBy run task)
      (c.settlements run task) ((c.play run).wait? task) := by
  intro run task
  rw [callsBy_eq, resultsBy_eq]
  induction after using List.reverseRecOn with
  | nil =>
      have waits := wait?_start c numbered (.changeMode mode) notice task
      rw [if_pos rfl] at waits
      have settled : c.settlements run task =
          ofTask task (c.settled? (.start (.changeMode mode) notice)).toList := by
        simp [settlements, trace, run]
      rw [deeds_start, settled, play_cons, play_nil, Console.step, waits]
      cases mode with
      | emergencyStop =>
          have changed : c.Changing .emergencyStop task run _ _ _ _ := .settled notice
          simpa [settled?, ofTask, firstDeed, firstCalls, firstResult?, firstWait?,
            settledCalls_eq, settledResult_eq, Mode.request, Mode.method, Mode.name,
            executorService, task] using changed
      | auto => exact .waiting
      | teleop => exact .waiting
      | idle => exact .waiting
  | append_singleton after m ih =>
      let earlier := Move.start (.changeMode mode) notice :: after
      have settled : c.settlements run task =
          c.settlements earlier task ++ ofTask task ((c.play earlier).settled? m).toList := by
        have snoc := c.trace_snoc settled? earlier m
        unfold settlements
        rw [← ofTask_append, ← snoc]
        rfl
      have step := Changing.step ih (numbered.play earlier)
        (known_play c (.changeMode mode) notice after) (play_settings c earlier)
        (play_hasLogDisplay c earlier) m
      rw [← List.flatMap_append, ← List.filterMap_append, ← deeds_snoc, ← play_snoc,
        ← settled] at step
      exact step

end

/-! ## The log display -/

section

variable {c : Console}

theorem openLog_not_mem_refusal (next : Guarded) (failure : Failure) :
    Call.openLog ∉ next.refusal failure := by
  intro member
  rcases error_of_mem_refusal member with ⟨message, same⟩
  cases same

theorem openLog_not_mem_guardedCalls (next : Guarded) : Call.openLog ∉ c.guardedCalls next := by
  unfold guardedCalls askCalls
  split
  · split
    · simp
    · exact openLog_not_mem_refusal next .busy
  · cases next <;> simp [Guarded.fetches]

theorem saveCall_ne_openLog (saveAs : Bool) : c.saveCall saveAs ≠ .openLog := by
  unfold saveCall
  split <;> simp

theorem openLog_not_mem_firstCalls (notice : Except Failure Unit) (operation : Operation) :
    Call.openLog ∉ c.firstCalls notice operation := by
  have save (saveAs : Bool) : Call.openLog ∉ [c.saveCall saveAs] := by
    rw [List.mem_singleton]
    exact (saveCall_ne_openLog saveAs).symm
  cases operation with
  | create => exact openLog_not_mem_guardedCalls .create
  | openFile => exact openLog_not_mem_guardedCalls .openFile
  | save saveAs => exact save saveAs
  | download => exact openLog_not_mem_guardedCalls .download
  | answer choice => cases choice with
    | save => exact save false
    | _ => simp [firstCalls]
  | changeMode mode => cases mode with
    | emergencyStop => cases notice <;> simp [firstCalls, nextCalls, opensLog, Mode.isActive]
    | _ => simp [firstCalls]
  | _ => simp [firstCalls]

theorem openLog_mem_nextCalls {wait : Wait} {answer : wait.Reply}
    (opens : Call.openLog ∈ c.nextCalls wait answer) : exists mode, wait = .invoke mode := by
  have silent {what : String} {failure : Failure} : Call.openLog ∉ report what failure := by
    intro member
    rcases error_of_mem_report member with ⟨message, same⟩
    cases same
  cases wait with
  | invoke mode => exact ⟨mode, rfl⟩
  | confirmation id next => cases answer with
    | ok => cases next <;> simp [nextCalls, Guarded.fetches] at opens
    | error failure => exact absurd opens (openLog_not_mem_refusal next failure)
  | openPath => cases answer <;> simp [nextCalls] at opens
  | readFile path => cases answer <;> simp [nextCalls, silent] at opens
  | download => cases answer <;> simp [nextCalls, silent] at opens
  | upload content => cases answer <;> simp [nextCalls, silent] at opens
  | savePath purpose content => cases answer <;> simp [nextCalls] at opens
  | writeFile purpose path content => cases answer <;> simp [nextCalls, silent] at opens

theorem mem_settledCalls (mode : Mode) (answer : Except Failure Unit) :
    .openLog ∈ c.settledCalls mode answer ↔ answer = .ok () ∧
      (mode = .auto ∨ mode = .teleop) ∧ c.settings.control.openLogOnRun = true ∧
        c.hasLogDisplay = true := by
  cases answer with
  | error failure => simp [settledCalls]
  | ok => simp [settledCalls]

theorem newCalls_of_settled {task : Nat} {m : Move} {mode : Mode}
    {answer : Except Failure Unit} (settled : c.settled? m = some (task, mode, answer))
    (active : mode = .auto ∨ mode = .teleop) : c.newCalls m = c.settledCalls mode answer := by
  rcases settled_cases settled with ⟨rfl, _⟩ | ⟨rfl, waits⟩
  · rcases active with same | same <;> cases same
  · have deed : c.deed? (.reply task (.invoke mode) answer) =
        some (task, c.nextDeed (.invoke mode) answer) := if_pos ⟨rfl, waits⟩
    rw [newCalls_eq, deed]
    exact settledCalls_eq

/-- The log is opened when a change to an active mode is settled with success, if it is to be
opened and there is a display for it. -/
theorem openLog_mem_newCalls (m : Move) :
    .openLog ∈ c.newCalls m ↔ exists task mode, c.settled? m = some (task, mode, .ok ()) ∧
      (mode = .auto ∨ mode = .teleop) ∧ c.settings.control.openLogOnRun = true ∧
      c.hasLogDisplay = true := by
  constructor
  · intro opens
    rw [newCalls_eq] at opens
    cases c.turn m with
    | begins operation notice starts deed moved =>
        rw [deed] at opens
        exact absurd opens (openLog_not_mem_firstCalls notice operation)
    | goesOn task wait answer waits resumed deed moved =>
        rw [deed] at opens
        rcases openLog_mem_nextCalls opens with ⟨mode, rfl⟩
        have opens : .openLog ∈ c.nextCalls (.invoke mode) answer := opens
        rw [settledCalls_eq, mem_settledCalls] at opens
        rcases opens with ⟨rfl, active, wanted, display⟩
        exact ⟨task, mode, settled?_of_resumed resumed, active, wanted, display⟩
    | dropped task wait drops waits deed moved =>
        rw [deed] at opens
        cases opens
    | none deed moved =>
        rw [deed] at opens
        cases opens
  · rintro ⟨task, mode, settled, active, wanted, display⟩
    rw [newCalls_of_settled settled active, mem_settledCalls]
    exact ⟨rfl, active, wanted, display⟩

end

/-! ## Where mode changes come from -/

/-- An operation that waits was started earlier in the run, and waits for what it is about. -/
theorem started_of_waiting (settings : Settings) (hasLogDisplay : Bool) (moves : List Move) :
    let first := fresh settings hasLogDisplay
    forall task wait, (first.play moves).wait? task = some wait ->
      exists before operation notice after,
        moves = before ++ .start operation notice :: after ∧
        task = (first.play before).started + 1 ∧ wait.subject = operation.subject := by
  intro first
  induction moves using List.reverseRecOn with
  | nil =>
      intro task wait waits
      cases waits
  | append_singleton moves m ih =>
      intro task wait waits
      have numbered := (numbered_fresh settings hasLogDisplay).play moves
      -- What was started before stays so when the run goes on.
      have earlier {wait' : Wait} (before : (first.play moves).wait? task = some wait')
          (same : wait.subject = wait'.subject) :
          exists before operation notice after,
            moves ++ [m] = before ++ .start operation notice :: after ∧
            task = (first.play before).started + 1 ∧ wait.subject = operation.subject := by
        rcases ih task wait' before with ⟨before, operation, notice, after, run, number, subject⟩
        refine ⟨before, operation, notice, after ++ [m], ?_, number, same.trans subject⟩
        rw [run, List.append_assoc]
        rfl
      rw [play_snoc] at waits
      rcases moved_or_waiting _ numbered waits with moved | before
      · cases (first.play moves).turn m with
        | begins operation notice starts deed moved' =>
            rw [moved, Option.some.injEq, Prod.mk.injEq] at moved'
            have leads := firstDeed_leadsTo (first.play moves) notice operation
            rw [← moved'.2] at leads
            exact ⟨moves, operation, notice, [], by rw [starts], moved'.1, leads.1⟩
        | goesOn task' wait' answer waits' resumed deed moved' =>
            rw [moved, Option.some.injEq, Prod.mk.injEq] at moved'
            have leads := nextDeed_leadsTo (first.play moves) wait' answer
            rw [← moved'.2] at leads
            rw [← moved'.1] at waits'
            exact earlier waits' leads.1
        | dropped task' wait' drops waits' deed moved' =>
            rw [moved] at moved'
            cases moved'
        | none deed moved' =>
            rw [moved] at moved'
            cases moved'
      · exact earlier before rfl

theorem started_of_settled (settings : Settings) (hasLogDisplay : Bool) (moves : List Move)
    (m : Move) :
    let first := fresh settings hasLogDisplay
    forall task mode answer, (first.play moves).settled? m = some (task, mode, answer) ->
      exists before notice after,
        moves ++ [m] = before ++ .start (.changeMode mode) notice :: after ∧
        task = (first.play before).started + 1 := by
  intro first task mode answer settled
  rcases settled_cases settled with ⟨_, rfl, number⟩ | ⟨rfl, waits⟩
  · exact ⟨moves, answer, [], rfl, number⟩
  · rcases started_of_waiting settings hasLogDisplay moves task (.invoke mode) waits with
      ⟨before, operation, notice, after, run, number, subject⟩
    have changes : operation = .changeMode mode := by
      cases operation <;> cases subject
      rfl
    rw [changes] at run
    refine ⟨before, notice, after ++ [.reply task (.invoke mode) answer], ?_, number⟩
    rw [run, List.append_assoc]
    rfl

theorem request_of_error {mode : Mode} {answer : Except Failure Unit} {failure : Failure}
    (failed : settledResult mode answer = .error failure) :
    exists service method message, failure = .request service method message := by
  cases answer with
  | ok => cases failed
  | error cause =>
      cases failed
      cases cause <;> exact ⟨_, _, _, rfl⟩

theorem state_of_issued (c : Console) {mode : Mode} (waits : mode ≠ .emergencyStop)
    (notice : Except Failure Unit) :
    (c.step (.start (.changeMode mode) notice)).state = c.state := by
  rw [step_state]
  cases mode with
  | emergencyStop => exact absurd rfl waits
  | _ => rfl

theorem settledCalls_play (c : Console) (moves : List Move) (mode : Mode)
    (answer : Except Failure Unit) :
    (c.play moves).settledCalls mode answer = c.settledCalls mode answer := by
  simp only [settledCalls, play_settings, play_hasLogDisplay]

/-- However mode changes, their replies and everything else fall together, the link is what the
changes make of it one after the other, and each mode change that succeeds is one of them, at the
move that settles it. One that fails leaves the session alone, tells the user once, and ends in a
failed request. Each sends one request and is settled once at most, an emergency stop in the move
that starts it. The log is opened once for each change to an active mode that succeeds, if it is to
be opened and there is a display, and at no other time. -/
theorem mode_changes_settle_by_own_reply (settings : Settings) (hasLogDisplay : Bool) :
    let first := fresh settings hasLogDisplay
    (forall moves, (first.play moves).state.link =
      Link.play settings.health (first.trace linkChange? moves)) ∧
    (forall moves m,
      let c := first.play moves
      (forall task mode answer, c.settled? m = some (task, mode, answer) ->
        (c.step m).state = settledState c.state mode answer ∧
        exists before notice after,
          moves ++ [m] = before ++ .start (.changeMode mode) notice :: after ∧
          task = (first.play before).started + 1) ∧
      (.openLog ∈ c.newCalls m ↔ exists task mode, c.settled? m = some (task, mode, .ok ()) ∧
        (mode = .auto ∨ mode = .teleop) ∧ settings.control.openLogOnRun = true ∧
          hasLogDisplay = true) ∧
      (.openLog ∈ c.newCalls m -> c.newCalls m = [.openLog])) ∧
    (forall before mode notice after,
      let c := first.play before
      let run := Move.start (.changeMode mode) notice :: after
      let task := c.started + 1
      let settled := c.settlements run task
      settled.length ≤ 1 ∧
      (forall entry, entry ∈ settled -> entry.1 = mode) ∧
      c.callsBy run task =
        mode.request :: settled.flatMap (fun entry => first.settledCalls mode entry.2) ∧
      c.resultsBy run task = settled.map (fun entry => settledResult mode entry.2) ∧
      (forall failure, .error failure ∈ c.resultsBy run task ->
        exists service method message, failure = .request service method message) ∧
      (settled = [] -> .drop task ∉ run -> (c.play run).wait? task = some (.invoke mode)) ∧
      (mode = .emergencyStop ->
        c.settled? (.start (.changeMode mode) notice) = some (task, mode, notice)) ∧
      (mode ≠ .emergencyStop ->
        (c.step (.start (.changeMode mode) notice)).state = c.state)) := by
  intro first
  refine ⟨link_play settings hasLogDisplay, ?_, ?_⟩
  · intro moves m c
    have settingsOf : c.settings = settings := play_settings first moves
    have displayOf : c.hasLogDisplay = hasLogDisplay := play_hasLogDisplay first moves
    have opens := openLog_mem_newCalls (c := c) m
    rw [settingsOf, displayOf] at opens
    refine ⟨?_, opens, ?_⟩
    · intro task mode answer settled
      exact ⟨state_of_settled settled,
        started_of_settled settings hasLogDisplay moves m task mode answer settled⟩
    · intro opened
      rcases opens.1 opened with ⟨task, mode, settled, active, wanted, display⟩
      rw [newCalls_of_settled settled active]
      simp [settledCalls, active, settingsOf, displayOf, wanted, display]
  · intro before mode notice after c run task settled
    have numbered : c.Numbered := (numbered_fresh settings hasLogDisplay).play before
    have sameCalls (answer : Except Failure Unit) :
        c.settledCalls mode answer = first.settledCalls mode answer :=
      settledCalls_play first before mode answer
    have stops : mode = .emergencyStop ->
        c.settled? (.start (.changeMode mode) notice) = some (task, mode, notice) := by
      rintro rfl
      rfl
    have issues : mode ≠ .emergencyStop ->
        (c.step (.start (.changeMode mode) notice)).state = c.state :=
      fun waits => state_of_issued c waits notice
    have changing : c.Changing mode task run (c.callsBy run task) (c.resultsBy run task) settled
        ((c.play run).wait? task) := changing_play numbered mode notice after
    clear_value settled
    generalize c.callsBy run task = calls at changing ⊢
    generalize c.resultsBy run task = results at changing ⊢
    generalize (c.play run).wait? task = wait? at changing ⊢
    cases changing with
    | waiting =>
        exact ⟨Nat.zero_le 1, by simp, rfl, rfl, by simp, fun _ _ => rfl, stops, issues⟩
    | dropped drops =>
        refine ⟨Nat.zero_le 1, by simp, rfl, rfl, by simp, ?_, stops, issues⟩
        intro _ dropsNot
        exact absurd drops dropsNot
    | settled answer =>
        refine ⟨Nat.le_refl 1, by simp, ?_, rfl, ?_, by simp, stops, issues⟩
        · simp [sameCalls]
        · intro failure member
          exact request_of_error (List.mem_singleton.1 member).symm

end Console
end RobotConsole
