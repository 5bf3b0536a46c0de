import RobotConsole.Console.Move
import RobotConsole.Proofs.Console.Progress
import RobotConsole.Proofs.Dict.Lookup

/-!
# Steps

What one move does to a console: the waits of the operations, the buffer, and what
stays as it is. `Console.effect` gives the effect of the part of an operation that
a move sets going.
-/

namespace RobotConsole

/-! ## The dialog and the rest of the session -/

namespace SessionState

def withoutDialog (s : SessionState) : SessionState :=
  { s with confirmation := {} }

variable (s : SessionState) (id : RequestId)

@[simp] theorem withoutDialog_closeRequest :
    (s.closeRequest id).withoutDialog = s.withoutDialog := by
  unfold closeRequest
  split <;> rfl

theorem closeRequest_confirmation :
    (s.closeRequest id).confirmation =
      if s.confirmation.request = some id then {} else s.confirmation := by
  unfold closeRequest
  split <;> rfl

end SessionState

def Effect.applyTo (e : Effect) (s : SessionState) : SessionState :=
  { s with
    editor := e.change.elim s.editor s.editor.change
    link := e.mode.elim s.link s.link.applyMode }

namespace Console

section

variable (c : Console)

/-! ## Fields that effects leave alone -/

@[simp] theorem resolve_settings (r : Resolution) : (c.resolve r).1.settings = c.settings := by
  unfold resolve
  cases c.gate.outstanding <;> rfl

@[simp] theorem resolve_hasLogDisplay (r : Resolution) :
    (c.resolve r).1.hasLogDisplay = c.hasLogDisplay := by
  unfold resolve
  cases c.gate.outstanding <;> rfl

@[simp] theorem resolve_started (r : Resolution) : (c.resolve r).1.started = c.started := by
  unfold resolve
  cases c.gate.outstanding <;> rfl

@[simp] theorem resolve_tasks (r : Resolution) : (c.resolve r).1.tasks = c.tasks := by
  unfold resolve
  cases c.gate.outstanding <;> rfl

@[simp] theorem resolve_session (r : Resolution) :
    (c.resolve r).1.state.withoutDialog = c.state.withoutDialog := by
  unfold resolve
  cases c.gate.outstanding with
  | none => rfl
  | some id => exact SessionState.withoutDialog_closeRequest c.state id

@[simp] theorem ifFree_settings : c.ifFree.settings = c.settings := by
  unfold ifFree
  split <;> rfl

@[simp] theorem ifFree_hasLogDisplay : c.ifFree.hasLogDisplay = c.hasLogDisplay := by
  unfold ifFree
  split <;> rfl

@[simp] theorem ifFree_started : c.ifFree.started = c.started := by
  unfold ifFree
  split <;> rfl

@[simp] theorem ifFree_tasks : c.ifFree.tasks = c.tasks := by
  unfold ifFree
  split <;> rfl

@[simp] theorem ifFree_session : c.ifFree.state.withoutDialog = c.state.withoutDialog := by
  unfold ifFree
  split <;> rfl

@[simp] theorem enact_settings (e : Effect) : (c.enact e).settings = c.settings := by
  rcases e with ⟨_ | _, _ | change, _ | mode, _ | answer⟩ <;> simp [enact]

@[simp] theorem enact_hasLogDisplay (e : Effect) :
    (c.enact e).hasLogDisplay = c.hasLogDisplay := by
  rcases e with ⟨_ | _, _ | change, _ | mode, _ | answer⟩ <;> simp [enact]

@[simp] theorem enact_started (e : Effect) : (c.enact e).started = c.started := by
  rcases e with ⟨_ | _, _ | change, _ | mode, _ | answer⟩ <;> simp [enact]

@[simp] theorem enact_tasks (e : Effect) : (c.enact e).tasks = c.tasks := by
  rcases e with ⟨_ | _, _ | change, _ | mode, _ | answer⟩ <;> simp [enact]

theorem enact_session (e : Effect) :
    (c.enact e).state.withoutDialog = (e.applyTo c.state).withoutDialog := by
  have asked : (if e.asks then c.ifFree else c).state.withoutDialog = c.state.withoutDialog := by
    split
    · exact ifFree_session c
    · rfl
  have applied := congrArg e.applyTo asked
  rcases e with ⟨asks, change?, mode?, _ | answer⟩
  · cases change? <;> cases mode? <;> exact applied
  · refine (resolve_session _ answer).trans ?_
    cases change? <;> cases mode? <;> exact applied

/-! ## What moves set going -/

def collected? (task : Nat) (expired : Bool) :
    Option (RequestId × Guarded × Except Failure Unit) :=
  match c.wait? task with
  | some (.confirmation id next) =>
      (c.outcome? id expired).map fun (_, outcome) => (id, next, outcome)
  | _ => none

/-- The effect of the part of an operation that a move sets going. -/
def effect : Move -> Effect
  | .start operation notice => operation.effect c.state.editor.dirty notice
  | .reply task wait answer =>
      if wait.isCall ∧ c.wait? task = some wait then wait.effect c.settings.editor answer else {}
  | .wake task expired =>
      match c.collected? task expired with
      | some (id, next, outcome) =>
          Wait.effect c.settings.editor (.confirmation id next) outcome
      | none => {}
  | .resolve resolution => { answer := some resolution }
  | .edit content => { change := some (.unsaved content) }
  | _ => {}

def wokenBy (task : Nat) (id : RequestId) (message : Message) : Console :=
  ((c.say message).releaseRequest id).removeTask task

theorem wake_of_collected {task : Nat} {expired : Bool} {id : RequestId} {next : Guarded}
    {outcome : Except Failure Unit} (h : c.collected? task expired = some (id, next, outcome)) :
    c.wait? task = some (.confirmation id next) ∧
      exists message, c.outcome? id expired = some (message, outcome) ∧
        c.wake task expired =
          settle task ((c.wokenBy task id message).resume (.confirmation id next) outcome) := by
  unfold collected? at h
  split at h
  · rename_i id' next' waiting
    rcases Option.map_eq_some_iff.1 h with ⟨⟨message, outcome'⟩, found, same⟩
    cases same
    refine ⟨waiting, message, found, ?_⟩
    unfold wake
    rw [waiting]
    simp [collect?, found, wokenBy]
  · cases h

theorem wake_of_not_collected {task : Nat} {expired : Bool}
    (h : c.collected? task expired = none) : c.wake task expired = c := by
  unfold wake
  unfold collected? at h
  split
  · rename_i id next waiting
    rw [waiting] at h
    have nothing : c.outcome? id expired = none := by simpa using h
    simp [collect?, nothing]
  · rfl

/-! ## Waits -/

theorem wait?_removeTask (task other : Nat) :
    (c.removeTask task).wait? other = if other = task then none else c.wait? other :=
  lookup_filter_ne c.tasks task other

theorem wait?_settle {task : Nat} (h : c.wait? task = none) (p : Progress) (other : Nat) :
    (settle task (c, p)).wait? other = if other = task then p.wait? else c.wait? other := by
  cases p with
  | finished result =>
      by_cases same : other = task
      · rw [if_pos same, same]
        exact h
      · simp [same, settle, wait?]
  | waiting wait =>
      unfold wait? at h
      by_cases same : other = task
      · subst same
        simp [settle, wait?, List.lookup_append, h, Progress.wait?]
      · have differs : (other == task) = false := by simp [same]
        simp [settle, wait?, List.lookup_append, List.lookup_cons, differs, same]

@[simp] theorem begin_tasks (notice : Except Failure Unit) (operation : Operation) :
    (c.begin notice operation).1.tasks = c.tasks := by
  have same := congrArg Console.tasks (begin_effect c notice operation)
  exact same.trans (enact_tasks c _)

@[simp] theorem resume_tasks (wait : Wait) (answer : wait.Reply) :
    (c.resume wait answer).1.tasks = c.tasks := by
  have same := congrArg Console.tasks (resume_effect c wait answer)
  exact same.trans (enact_tasks c _)

@[simp] theorem releaseRequest_tasks (id : RequestId) : (c.releaseRequest id).tasks = c.tasks := by
  unfold releaseRequest
  dsimp only
  split <;> rfl

/-- No operation in progress has a number that was not given yet. -/
def Numbered : Prop :=
  forall task, c.started < task -> c.wait? task = none

theorem wait?_start (numbered : c.Numbered) (operation : Operation)
    (notice : Except Failure Unit) (task : Nat) :
    (c.start operation notice).wait? task =
      if task = c.started + 1 then c.firstWait? operation else c.wait? task := by
  let c' : Console := { c with started := c.started + 1 }
  have tasks : (c'.begin notice operation).1.tasks = c.tasks := begin_tasks c' notice operation
  have free : (c'.begin notice operation).1.wait? (c.started + 1) = none := by
    unfold wait?
    rw [tasks]
    exact numbered _ (Nat.lt_succ_self _)
  have first : (c'.begin notice operation).2.wait? = c.firstWait? operation := by
    rw [begin_wait?]
    cases operation <;> rfl
  show (settle (c.started + 1) (c'.begin notice operation)).wait? task = _
  rw [wait?_settle _ free, first]
  unfold wait?
  rw [tasks]

theorem wait?_settle_resume (task : Nat) (wait : Wait) (answer : wait.Reply) (other : Nat) :
    (settle task ((c.removeTask task).resume wait answer)).wait? other =
      if other = task then wait.next? answer else c.wait? other := by
  have same (other : Nat) : ((c.removeTask task).resume wait answer).1.wait? other =
      (c.removeTask task).wait? other := by
    unfold wait?
    rw [resume_tasks]
  have free : ((c.removeTask task).resume wait answer).1.wait? task = none := by
    rw [same, wait?_removeTask, if_pos rfl]
  rw [wait?_settle _ free, resume_wait?, same, wait?_removeTask]
  split <;> rfl

theorem wait?_wake {task : Nat} {expired : Bool} {id : RequestId} {next : Guarded}
    {outcome : Except Failure Unit} (h : c.collected? task expired = some (id, next, outcome))
    (other : Nat) :
    (c.wake task expired).wait? other =
      if other = task then Wait.next? (.confirmation id next) outcome else c.wait? other := by
  rcases wake_of_collected c h with ⟨_, message, _, woken⟩
  rw [woken]
  unfold wokenBy
  rw [wait?_settle_resume]
  simp [wait?]

theorem wait?_drop (task other : Nat) :
    (c.drop task).1.wait? other = if other = task then none else c.wait? other := by
  unfold drop
  cases found : c.wait? task with
  | none =>
      by_cases same : other = task
      · simp [same, found]
      · simp [same]
  | some wait =>
      rw [← wait?_removeTask]
      cases wait <;> simp [wait?]

/-- The operation that a move sets going, with what it waits for afterwards. -/
def movedOn? : Move -> Option (Nat × Option Wait)
  | .start operation _ => some (c.started + 1, c.firstWait? operation)
  | .reply task wait answer =>
      if wait.isCall ∧ c.wait? task = some wait then some (task, wait.next? answer) else none
  | .wake task expired =>
      (c.collected? task expired).map fun (id, next, outcome) =>
        (task, Wait.next? (.confirmation id next) outcome)
  | .drop task => (c.wait? task).map fun _ => (task, none)
  | _ => none

@[simp] theorem resolveRequest_tasks (id : RequestId) (r : Resolution) :
    (c.resolveRequest id r).1.tasks = c.tasks := by
  unfold resolveRequest
  split <;> rfl

@[simp] theorem dismiss_tasks : c.dismiss.1.tasks = c.tasks := by
  unfold dismiss
  cases c.gate.outstanding <;> rfl

@[simp] theorem setAlliance_tasks (alliance : Option Alliance) :
    (c.setAlliance alliance).tasks = c.tasks := by
  cases alliance <;> rfl

@[simp] theorem apply_tasks (now : Int) (event : TransportEvent) :
    (c.apply now event).tasks = c.tasks := by
  cases event with
  | telemetry batch => simp [apply, applyBatch]
  | log event => simp [apply, applyLog]

@[simp] theorem tick_tasks (now : Int) : (c.tick now).tasks = c.tasks := by
  simp [tick]

/-- A move changes the wait of the operation that it sets going, and no other wait. -/
theorem wait?_step (numbered : c.Numbered) (m : Move) (other : Nat) :
    (c.step m).wait? other =
      match c.movedOn? m with
      | some (task, wait?) => if other = task then wait? else c.wait? other
      | none => c.wait? other := by
  have untouched {c' : Console} (h : c'.tasks = c.tasks) : c'.wait? other = c.wait? other := by
    unfold wait?
    rw [h]
  cases m with
  | start operation notice => exact wait?_start c numbered operation notice other
  | reply task wait answer =>
      simp only [step, reply, movedOn?]
      split
      · exact wait?_settle_resume c task wait answer other
      · rfl
  | wake task expired =>
      simp only [step, movedOn?]
      cases found : c.collected? task expired with
      | none => rw [wake_of_not_collected c found]; rfl
      | some collected => exact wait?_wake c found other
  | drop task =>
      simp only [step, movedOn?, wait?_drop]
      cases found : c.wait? task with
      | none =>
          by_cases same : other = task
          · simp [same, found]
          · simp [same]
      | some wait => rfl
  | resolve r => exact untouched (resolve_tasks c r)
  | resolveRequest id r => exact untouched (resolveRequest_tasks c id r)
  | dismiss => exact untouched (dismiss_tasks c)
  | edit content => rfl
  | setAlliance alliance => exact untouched (setAlliance_tasks c alliance)
  | apply now event => exact untouched (apply_tasks c now event)
  | tick now => exact untouched (tick_tasks c now)

theorem moved_or_waiting (numbered : c.Numbered) {m : Move} {task : Nat} {wait : Wait}
    (waits : (c.step m).wait? task = some wait) :
    c.movedOn? m = some (task, some wait) ∨ c.wait? task = some wait := by
  rw [wait?_step c numbered] at waits
  cases moved : c.movedOn? m with
  | none =>
      rw [moved] at waits
      exact .inr waits
  | some entry =>
      rcases entry with ⟨mover, wait?⟩
      rw [moved] at waits
      dsimp only at waits
      split at waits
      · rename_i mine
        left
        rw [mine, waits]
      · exact .inr waits

/-! ## The console but for its operations -/

def bare : Console :=
  { c with tasks := [], journal := [] }

/-- An operation that was dropped where it stood, with its request not yet released. -/
def dropped (task : Nat) : Console :=
  { c.removeTask task with journal := .dropped task :: c.journal }

theorem drop_of_waiting {task : Nat} {wait : Wait} (h : c.wait? task = some wait) :
    (c.drop task).1 = wait.request?.elim (c.dropped task) (c.dropped task).releaseRequest := by
  unfold drop
  simp only [h]
  cases wait <;> rfl

theorem drop_of_not_waiting {task : Nat} (h : c.wait? task = none) : (c.drop task).1 = c := by
  unfold drop
  simp only [h]

/-- What a move does to all but the operations in progress and the journal. -/
def outcomeOf (m : Move) : Console :=
  match m with
  | .start .. => { c with started := c.started + 1 }.enact (c.effect m)
  | .wake task expired =>
      (c.collected? task expired).elim c fun collected =>
        (c.releaseRequest collected.1).enact (c.effect m)
  | .drop task => (c.request? task).elim c c.releaseRequest
  | .resolveRequest id resolution => (c.resolveRequest id resolution).1
  | .dismiss => c.dismiss.1
  | .setAlliance alliance => c.setAlliance alliance
  | .apply now event => c.apply now event
  | .tick now => c.tick now
  | _ => c.enact (c.effect m)

@[simp] theorem releaseRequest_settings (id : RequestId) :
    (c.releaseRequest id).settings = c.settings := by
  unfold releaseRequest
  dsimp only
  split <;> rfl

@[simp] theorem releaseRequest_hasLogDisplay (id : RequestId) :
    (c.releaseRequest id).hasLogDisplay = c.hasLogDisplay := by
  unfold releaseRequest
  dsimp only
  split <;> rfl

section

variable {c}

theorem bare_of_withoutJournal {c' : Console} (h : c.withoutJournal = c'.withoutJournal) :
    c.bare = c'.bare :=
  congrArg (fun c => { c with tasks := [] }) h

theorem bare_settle (task : Nat) (p : Console × Progress) : (settle task p).bare = p.1.bare := by
  rcases p with ⟨c, _ | _⟩ <;> rfl

theorem bare_releaseRequest {c' : Console} (h : c.bare = c'.bare) (id : RequestId) :
    (c.releaseRequest id).bare = (c'.releaseRequest id).bare := by
  have forgets (c : Console) : (c.releaseRequest id).bare = (c.bare.releaseRequest id).bare := by
    unfold releaseRequest
    dsimp only
    show _ = (if c.state.confirmation.request = some id then _ else _ : Console).bare
    split <;> rfl
  rw [forgets c, forgets c', h]

theorem bare_enact {c' : Console} (h : c.bare = c'.bare) (e : Effect) :
    (c.enact e).bare = (c'.enact e).bare := by
  have forgets (c : Console) : (c.enact e).bare = (c.bare.enact e).bare := by
    rcases c with ⟨settings, display, state, ⟨issued, _ | id, mail⟩, started, tasks, journal⟩ <;>
      rcases e with ⟨_ | _, _ | change, _ | mode, _ | answer⟩ <;> rfl
  rw [forgets c, forgets c', h]

end

theorem step_bare (m : Move) : (c.step m).bare = (c.outcomeOf m).bare := by
  cases m with
  | start operation notice =>
      rw [step, start, bare_settle]
      exact bare_of_withoutJournal
        (begin_effect { c with started := c.started + 1 } notice operation)
  | reply task wait answer =>
      simp only [step, reply, outcomeOf, effect]
      split
      · rw [bare_settle]
        have resumed := bare_of_withoutJournal (resume_effect (c.removeTask task) wait answer)
        have kept : (c.removeTask task).bare = c.bare := rfl
        exact resumed.trans (bare_enact kept _)
      · rfl
  | wake task expired =>
      simp only [step, outcomeOf]
      cases found : c.collected? task expired with
      | none => rw [wake_of_not_collected c found]; rfl
      | some collected =>
          rcases collected with ⟨id, next, outcome⟩
          rcases wake_of_collected c found with ⟨_, message, _, woken⟩
          have said : (c.say message).bare = c.bare := rfl
          have kept : (c.wokenBy task id message).bare = (c.releaseRequest id).bare :=
            bare_releaseRequest said id
          have settings : (c.wokenBy task id message).settings = c.settings :=
            releaseRequest_settings (c.say message) id
          have resumed := bare_of_withoutJournal
            (resume_effect (c.wokenBy task id message) (.confirmation id next) outcome)
          rw [woken, bare_settle, resumed, settings]
          simp only [effect, found, Option.elim]
          exact bare_enact kept _
  | drop task =>
      simp only [step, outcomeOf, request?]
      cases found : c.wait? task with
      | none => rw [drop_of_not_waiting c found]; rfl
      | some wait =>
          have kept : (c.dropped task).bare = c.bare := rfl
          rw [drop_of_waiting c found]
          simp only [Option.bind]
          cases wait.request? with
          | none => exact kept
          | some id => exact bare_releaseRequest kept id
  | resolve r => rfl
  | resolveRequest id r => rfl
  | dismiss => rfl
  | edit content => rfl
  | setAlliance alliance => rfl
  | apply now event => rfl
  | tick now => rfl

/-! ## Fields after a step -/

theorem step_state (m : Move) : (c.step m).state = (c.outcomeOf m).state :=
  congrArg (fun c => c.state) (step_bare c m)

@[simp] theorem releaseRequest_started (id : RequestId) :
    (c.releaseRequest id).started = c.started := by
  unfold releaseRequest
  dsimp only
  split <;> rfl

theorem releaseRequest_session (id : RequestId) :
    (c.releaseRequest id).state.withoutDialog = c.state.withoutDialog := by
  unfold releaseRequest
  dsimp only
  split
  · exact SessionState.withoutDialog_closeRequest c.state id
  · rfl

theorem step_given (m : Move) :
    (c.step m).settings = c.settings ∧ (c.step m).hasLogDisplay = c.hasLogDisplay := by
  have same := step_bare c m
  have given : (c.outcomeOf m).settings = c.settings ∧
      (c.outcomeOf m).hasLogDisplay = c.hasLogDisplay := by
    cases m with
    | start operation notice => exact ⟨enact_settings _ _, enact_hasLogDisplay _ _⟩
    | reply task wait answer => exact ⟨enact_settings c _, enact_hasLogDisplay c _⟩
    | wake task expired =>
        simp only [outcomeOf]
        cases c.collected? task expired <;> simp
    | drop task =>
        simp only [outcomeOf]
        cases c.request? task <;> simp
    | resolve r => exact ⟨enact_settings c _, enact_hasLogDisplay c _⟩
    | resolveRequest id r => simp only [outcomeOf, resolveRequest]; split <;> exact ⟨rfl, rfl⟩
    | dismiss => simp only [outcomeOf, dismiss]; split <;> exact ⟨rfl, rfl⟩
    | edit content => exact ⟨enact_settings c _, enact_hasLogDisplay c _⟩
    | setAlliance alliance => cases alliance <;> exact ⟨rfl, rfl⟩
    | apply now event => cases event <;> simp [outcomeOf, apply, applyBatch, applyLog]
    | tick now => simp [outcomeOf, tick]
  exact ⟨(congrArg settings same).trans given.1, (congrArg hasLogDisplay same).trans given.2⟩

theorem step_settings (m : Move) : (c.step m).settings = c.settings :=
  (step_given c m).1

theorem step_hasLogDisplay (m : Move) : (c.step m).hasLogDisplay = c.hasLogDisplay :=
  (step_given c m).2

theorem step_started (m : Move) :
    (c.step m).started = match m with
      | .start .. => c.started + 1
      | _ => c.started := by
  refine (congrArg started (step_bare c m)).trans ?_
  show (c.outcomeOf m).started = _
  cases m with
  | start operation notice => exact enact_started _ _
  | reply task wait answer => exact enact_started c _
  | wake task expired =>
      simp only [outcomeOf]
      cases c.collected? task expired <;> simp
  | drop task =>
      simp only [outcomeOf]
      cases c.request? task <;> simp
  | resolve r => exact enact_started c _
  | resolveRequest id r => simp only [outcomeOf, resolveRequest]; split <;> rfl
  | dismiss => simp only [outcomeOf, dismiss]; split <;> rfl
  | edit content => exact enact_started c _
  | setAlliance alliance => cases alliance <;> rfl
  | apply now event => cases event <;> simp [outcomeOf, apply, applyBatch, applyLog]
  | tick now => simp [outcomeOf, tick]

def sessionAfter : Move -> SessionState
  | .setAlliance alliance => { c.state with link := c.state.link.setAlliance alliance }
  | .apply now (.telemetry batch) => c.state.applyBatch now batch
  | .apply _ (.log event) => c.state.applyLog event
  | .tick now => c.state.tick now
  | m => (c.effect m).applyTo c.state

theorem step_session (m : Move) :
    (c.step m).state.withoutDialog = (c.sessionAfter m).withoutDialog := by
  rw [step_state]
  cases m with
  | start operation notice => exact enact_session _ _
  | reply task wait answer => exact enact_session c _
  | wake task expired =>
      simp only [outcomeOf, sessionAfter, effect]
      cases c.collected? task expired with
      | none => rfl
      | some collected =>
          -- The request is released before the operation goes on.
          have released := releaseRequest_session c collected.1
          exact (enact_session _ _).trans (congrArg (Effect.applyTo _) released)
  | drop task =>
      simp only [outcomeOf]
      cases c.request? task with
      | none => rfl
      | some id => exact releaseRequest_session c id
  | resolve r => exact enact_session c _
  | resolveRequest id r =>
      simp only [outcomeOf, resolveRequest]
      split
      · exact SessionState.withoutDialog_closeRequest c.state id
      · rfl
  | dismiss =>
      simp only [outcomeOf, dismiss]
      split
      · exact SessionState.withoutDialog_closeRequest c.state _
      · rfl
  | edit content => exact enact_session c _
  | setAlliance alliance => cases alliance <;> rfl
  | apply now event => cases event with
    | telemetry batch => simp [outcomeOf, apply, applyBatch, sessionAfter]
    | log event => simp [outcomeOf, apply, applyLog, sessionAfter]
  | tick now => simp [outcomeOf, tick, sessionAfter]

/-- The buffer changes by the effect of a move and in no other way. -/
theorem step_editor (m : Move) :
    (c.step m).state.editor =
      (c.effect m).change.elim c.state.editor c.state.editor.change := by
  refine (congrArg SessionState.editor (step_session c m)).trans ?_
  cases m with
  | apply now event => cases event <;> rfl
  | _ => rfl

/-! ## Numbers -/

theorem movedOn?_le_started {c : Console} (numbered : c.Numbered) {m : Move} {task : Nat}
    {wait? : Option Wait} (h : c.movedOn? m = some (task, wait?)) :
    task ≤ (c.step m).started := by
  have known {task : Nat} {wait : Wait} (waiting : c.wait? task = some wait) :
      task ≤ c.started := by
    apply Nat.le_of_not_lt
    intro later
    rw [numbered task later] at waiting
    cases waiting
  rw [step_started]
  cases m with
  | start operation notice =>
      cases h
      exact Nat.le_refl _
  | reply task' wait answer =>
      simp only [movedOn?] at h
      split at h
      · rename_i waiting
        cases h
        exact known waiting.2
      · cases h
  | wake task' expired =>
      rcases Option.map_eq_some_iff.1 h with ⟨⟨id, next, outcome⟩, found, same⟩
      cases same
      exact known (wake_of_collected c found).1
  | drop task' =>
      rcases Option.map_eq_some_iff.1 h with ⟨wait, waiting, same⟩
      cases same
      exact known waiting
  | _ => cases h

theorem Numbered.step {c : Console} (numbered : c.Numbered) (m : Move) :
    (c.step m).Numbered := by
  intro task later
  have before : c.started < task := by
    rw [step_started] at later
    cases m <;> first | exact Nat.lt_of_succ_lt later | exact later
  rw [wait?_step c numbered]
  cases moved : c.movedOn? m with
  | none => exact numbered task before
  | some entry =>
      rcases entry with ⟨mover, wait?⟩
      have differs : task ≠ mover := by
        have bound := movedOn?_le_started numbered moved
        omega
      simp [differs, numbered task before]

end

end Console
end RobotConsole
