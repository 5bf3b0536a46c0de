import Mathlib.Data.List.Forall2
import RobotConsole.Proofs.Console.Calls

/-!
# The deeds of an operation

A move runs one part of one operation at most. Nothing else makes calls, and nothing else
ends operations. The parts of one operation that ran are its deeds. A `Story` says which
deeds an operation can have done by the time when it waits for something or is over, and
every run tells such a story of every operation that was started in it.
-/

namespace RobotConsole

/-- What one part of an operation does. -/
structure Deed where
  calls : List Call
  effect : Effect
  result? : Option OperationResult

def ofTask {α : Type} (task : Nat) (observed : List (Nat × α)) : List α :=
  observed.filterMap fun entry => if entry.1 = task then some entry.2 else none

theorem ofTask_append {α : Type} (task : Nat) (first second : List (Nat × α)) :
    ofTask task (first ++ second) = ofTask task first ++ ofTask task second :=
  List.filterMap_append

namespace Console

def firstDeed (c : Console) (notice : Except Failure Unit) (operation : Operation) : Deed where
  calls := c.firstCalls notice operation
  effect := operation.effect c.state.editor.dirty notice
  result? := c.firstResult? notice operation

def nextDeed (c : Console) (wait : Wait) (answer : wait.Reply) : Deed where
  calls := c.nextCalls wait answer
  effect := wait.effect c.settings.editor answer
  result? := wait.result? answer

def resumed? (c : Console) : Move -> Option (Nat × (wait : Wait) × wait.Reply)
  | .reply task wait answer =>
      if wait.isCall ∧ c.wait? task = some wait then some (task, ⟨wait, answer⟩) else none
  | .wake task expired =>
      (c.collected? task expired).map fun (id, next, outcome) =>
        (task, ⟨.confirmation id next, outcome⟩)
  | _ => none

/-- The operation of which a move runs a part, and what that part does. -/
def deed? (c : Console) : Move -> Option (Nat × Deed)
  | .start operation notice => some (c.started + 1, c.firstDeed notice operation)
  | .reply task wait answer =>
      if wait.isCall ∧ c.wait? task = some wait then some (task, c.nextDeed wait answer) else none
  | .wake task expired =>
      (c.collected? task expired).map fun (id, next, outcome) =>
        (task, c.nextDeed (.confirmation id next) outcome)
  | _ => none

/-! ## Observations -/

def runs? (c : Console) (m : Move) : Option Nat :=
  (c.deed? m).map Prod.fst

def newCalls (c : Console) (m : Move) : List Call :=
  (c.step m).calls.drop c.calls.length

/-- What is seen of the moves that run one operation. -/
def parts {α : Type} (observe : Console -> Move -> α) (c : Console) (moves : List Move)
    (task : Nat) : List α :=
  c.trace (fun c m => if c.runs? m = some task then some (observe c m) else none) moves

def callsBy (c : Console) (moves : List Move) (task : Nat) : List Call :=
  (c.parts newCalls moves task).flatten

/-- The buffer before and after each part of an operation. -/
def buffersBy (c : Console) (moves : List Move) (task : Nat) : List (EditorState × EditorState) :=
  c.parts (fun c m => (c.state.editor, (c.step m).state.editor)) moves task

def resultsBy (c : Console) (moves : List Move) (task : Nat) : List OperationResult :=
  ofTask task ((c.play moves).results.drop c.results.length)

def deeds (c : Console) (moves : List Move) (task : Nat) : List Deed :=
  ofTask task (c.trace deed? moves)

/-! ## What moves write -/

def resultOf? (entry : Nat × Deed) : Option (Nat × OperationResult) :=
  entry.2.result?.map fun result => (entry.1, result)

section

variable (c : Console)

theorem settle_calls (task : Nat) (p : Console × Progress) :
    (settle task p).calls = p.1.calls := by
  rcases p with ⟨c, wait | result⟩
  · rfl
  · exact (calls_happen c (.ended task result)).trans (List.append_nil _)

theorem settle_results (task : Nat) (p : Console × Progress) :
    (settle task p).results =
      p.1.results ++ (p.2.result?.map fun result => (task, result)).toList := by
  rcases p with ⟨c, wait | result⟩
  · exact (List.append_nil _).symm
  · exact results_happen c (.ended task result)

structure Writes (c' : Console) (task : Nat) (deed : Deed) : Prop where
  calls : c'.calls = c.calls ++ deed.calls
  results : c'.results = c.results ++ (resultOf? (task, deed)).toList

theorem writes_settle {c : Console} {p : Console × Progress} {deed : Deed} (task : Nat)
    (wrote : Wrote c p.1 deed.calls) (result : p.2.result? = deed.result?) :
    c.Writes (settle task p) task deed := by
  constructor
  · rw [settle_calls, wrote.calls]
  · rw [settle_results, wrote.results, result]
    rfl

theorem start_writes (operation : Operation) (notice : Except Failure Unit) :
    c.Writes (c.start operation notice) (c.started + 1) (c.firstDeed notice operation) := by
  let c' : Console := { c with started := c.started + 1 }
  have counted : Wrote c c' [] := .of_same rfl
  have calls : c'.firstCalls notice operation = c.firstCalls notice operation := by
    cases operation <;> rfl
  have result : c'.firstResult? notice operation = c.firstResult? notice operation := by
    cases operation <;> rfl
  have began := counted.then (wrote_begin c' notice operation)
  rw [calls] at began
  have ended := begin_result? c' notice operation
  rw [result] at ended
  exact writes_settle (c.started + 1) began ended

theorem nextDeed_congr {c c' : Console} (settings : c'.settings = c.settings)
    (display : c'.hasLogDisplay = c.hasLogDisplay) (wait : Wait) (answer : wait.Reply) :
    c'.nextDeed wait answer = c.nextDeed wait answer := by
  have calls : c'.nextCalls wait answer = c.nextCalls wait answer := by
    cases wait <;> cases answer <;> simp [nextCalls, savedText, opensLog, settings, display]
  simp [nextDeed, calls, settings]

theorem resume_writes {c c' : Console} (task : Nat) (silent : Wrote c c' [])
    (settings : c'.settings = c.settings) (display : c'.hasLogDisplay = c.hasLogDisplay)
    (wait : Wait) (answer : wait.Reply) :
    c.Writes (settle task (c'.resume wait answer)) task (c.nextDeed wait answer) := by
  have resumed := silent.then (wrote_resume c' wait answer)
  rw [← nextDeed_congr settings display]
  exact writes_settle task resumed (resume_result? c' wait answer)

/-- Calls and results are written by parts of operations, and nothing else writes any. -/
theorem step_writes (m : Move) :
    (c.step m).calls = c.calls ++ (c.deed? m).elim [] (fun entry => entry.2.calls) ∧
    (c.step m).results = c.results ++ ((c.deed? m).bind resultOf?).toList := by
  have of_writes {c' : Console} {task : Nat} {deed : Deed} (h : c.Writes c' task deed) :
      c'.calls = c.calls ++ (some (task, deed)).elim [] (fun entry => entry.2.calls) ∧
      c'.results = c.results ++ ((some (task, deed)).bind resultOf?).toList :=
    ⟨h.calls, h.results⟩
  have of_silent {c' : Console} (h : Wrote c c' []) :
      c'.calls = c.calls ++ (none : Option (Nat × Deed)).elim [] (fun entry => entry.2.calls) ∧
      c'.results = c.results ++ ((none : Option (Nat × Deed)).bind resultOf?).toList := by
    refine ⟨h.calls, ?_⟩
    rw [h.results]
    exact (List.append_nil _).symm
  cases m with
  | start operation notice => exact of_writes (start_writes c operation notice)
  | reply task wait answer =>
      have removed : Wrote c (c.removeTask task) [] := .of_same rfl
      simp only [step, reply, deed?]
      split
      · exact of_writes (resume_writes task removed rfl rfl wait answer)
      · exact of_silent (.of_same rfl)
  | wake task expired =>
      simp only [step, deed?]
      cases found : c.collected? task expired with
      | none =>
          rw [wake_of_not_collected c found]
          exact of_silent (.of_same rfl)
      | some collected =>
          rcases collected with ⟨id, next, outcome⟩
          rcases wake_of_collected c found with ⟨_, message, _, woken⟩
          have released : Wrote c (c.wokenBy task id message) [] :=
            (wrote_say c message).quietly (wrote_releaseRequest _ id) |>.quietly (.of_same rfl)
          rw [woken]
          exact of_writes (resume_writes task released (releaseRequest_settings _ id)
            (releaseRequest_hasLogDisplay _ id) (.confirmation id next) outcome)
  | drop task =>
      have noted : Wrote c (c.dropped task) [] := by
        constructor
        · exact calls_happen (c.removeTask task) (.dropped task)
        · exact (results_happen (c.removeTask task) (.dropped task)).trans (List.append_nil _)
      apply of_silent
      simp only [step]
      cases found : c.wait? task with
      | none =>
          rw [drop_of_not_waiting c found]
          exact .of_same rfl
      | some wait =>
          rw [drop_of_waiting c found]
          cases wait.request? with
          | none => exact noted
          | some id => exact noted.quietly (wrote_releaseRequest _ id)
  | resolve r => exact of_silent (wrote_resolve c r)
  | resolveRequest id r => exact of_silent (wrote_resolveRequest c id r)
  | dismiss => exact of_silent (wrote_dismiss c)
  | edit content => exact of_silent (wrote_update c fun _ => _)
  | setAlliance alliance =>
      have changed := wrote_update c fun s => { s with link := s.link.setAlliance alliance }
      cases alliance <;> exact of_silent (changed.quietly (wrote_say _ _))
  | apply now event => cases event with
    | telemetry batch =>
        have said := wrote_sayAll c (c.state.peripherals.snapshotMessages batch.kind batch.samples)
        have applied := said.quietly (wrote_update _ fun s => s.applyBatch now batch)
        exact of_silent (applied.quietly (wrote_say _ _))
    | log event =>
        have said := wrote_sayAll c (c.state.link.noteLogMessages event)
        exact of_silent (said.quietly (wrote_update _ fun s => s.applyLog event))
  | tick now =>
      have said := wrote_sayAll c (c.state.link.tickMessages (c.state.link.tick now))
      exact of_silent (said.quietly (wrote_update _ fun s => s.tick now))

theorem newCalls_eq (m : Move) :
    c.newCalls m = (c.deed? m).elim [] (fun entry => entry.2.calls) := by
  unfold newCalls
  rw [(step_writes c m).1, List.drop_left]

/-! ## Turns -/

/-- What a move means for the operations: one of them begins, goes on or is dropped, or none is
concerned. -/
inductive Turn (c : Console) (m : Move) : Prop where
  | begins (operation : Operation) (notice : Except Failure Unit)
      (starts : m = .start operation notice)
      (deed : c.deed? m = some (c.started + 1, c.firstDeed notice operation))
      (moved : c.movedOn? m = some (c.started + 1, c.firstWait? operation))
  | goesOn (task : Nat) (wait : Wait) (answer : wait.Reply)
      (waits : c.wait? task = some wait)
      (resumed : c.resumed? m = some (task, ⟨wait, answer⟩))
      (deed : c.deed? m = some (task, c.nextDeed wait answer))
      (moved : c.movedOn? m = some (task, wait.next? answer))
  | dropped (task : Nat) (wait : Wait)
      (drops : m = .drop task)
      (waits : c.wait? task = some wait)
      (deed : c.deed? m = none)
      (moved : c.movedOn? m = some (task, none))
  | none
      (deed : c.deed? m = none)
      (moved : c.movedOn? m = none)

theorem turn (m : Move) : c.Turn m := by
  cases m with
  | start operation notice => exact .begins operation notice rfl rfl rfl
  | reply task wait answer =>
      by_cases waits : wait.isCall ∧ c.wait? task = some wait
      · exact .goesOn task wait answer waits.2 (if_pos waits) (if_pos waits) (if_pos waits)
      · exact .none (if_neg waits) (if_neg waits)
  | wake task expired =>
      cases found : c.collected? task expired with
      | none => exact .none (by simp [deed?, found]) (by simp [movedOn?, found])
      | some collected =>
          rcases collected with ⟨id, next, outcome⟩
          exact .goesOn task (.confirmation id next) outcome (wake_of_collected c found).1
            (by simp [resumed?, found]) (by simp [deed?, found]) (by simp [movedOn?, found])
  | drop task =>
      cases found : c.wait? task with
      | none => exact .none rfl (by simp [movedOn?, found])
      | some wait => exact .dropped task wait rfl found rfl (by simp [movedOn?, found])
  | _ => exact .none rfl rfl

end

/-! ## Turns of one operation -/

inductive TurnOf (c : Console) (task : Nat) (wait : Wait) (m : Move) : Prop where
  | goesOn (answer : wait.Reply)
      (resumed : c.resumed? m = some (task, ⟨wait, answer⟩))
      (deed : c.deed? m = some (task, c.nextDeed wait answer))
      (after : (c.step m).wait? task = wait.next? answer)
  | dropped
      (drops : m = .drop task)
      (deed : c.deed? m = none)
      (after : (c.step m).wait? task = none)
  | waitsOn
      (deed : ofTask task (c.deed? m).toList = [])
      (after : (c.step m).wait? task = some wait)

section

variable {c : Console} {task : Nat}

theorem turnOf {wait : Wait} (numbered : c.Numbered) (known : task ≤ c.started)
    (waiting : c.wait? task = some wait) (m : Move) : c.TurnOf task wait m := by
  have after := wait?_step c numbered m task
  cases c.turn m with
  | begins operation notice starts deed moved =>
      have differs : c.started + 1 ≠ task := by omega
      refine .waitsOn (by simp [deed, ofTask, differs]) ?_
      simpa [moved, Ne.symm differs, waiting] using after
  | goesOn mover wait' answer waits resumed deed moved =>
      by_cases mine : mover = task
      · subst mine
        rw [waiting] at waits
        cases waits
        exact .goesOn answer resumed deed (by simpa [moved] using after)
      · refine .waitsOn (by simp [deed, ofTask, mine]) ?_
        simpa [moved, Ne.symm mine, waiting] using after
  | dropped mover wait' drops waits deed moved =>
      by_cases mine : mover = task
      · subst mine
        exact .dropped drops deed (by simpa [moved] using after)
      · refine .waitsOn (by simp [deed, ofTask]) ?_
        simpa [moved, Ne.symm mine, waiting] using after
  | none deed moved =>
      refine .waitsOn (by simp [deed, ofTask]) ?_
      simpa [moved, waiting] using after

theorem stays_over (numbered : c.Numbered) (known : task ≤ c.started) (gone : c.wait? task = none)
    (m : Move) : ofTask task (c.deed? m).toList = [] ∧ (c.step m).wait? task = none := by
  rw [wait?_step c numbered]
  have waitsNot {other : Nat} {wait : Wait} (waits : c.wait? other = some wait) :
      other ≠ task := by
    rintro rfl
    rw [gone] at waits
    cases waits
  cases c.turn m with
  | begins operation notice starts deed moved =>
      have differs : c.started + 1 ≠ task := by omega
      simp [deed, moved, ofTask, differs, Ne.symm differs, gone]
  | goesOn other wait answer waits resumed deed moved =>
      have differs := waitsNot waits
      simp [deed, moved, ofTask, differs, Ne.symm differs, gone]
  | dropped other wait drops waits deed moved => simp [deed, moved, ofTask, gone]
  | none deed moved => simp [deed, moved, ofTask, gone]

end

/-! ## Stories -/

/-- What an operation that began in a given console can have done, and what it waits for
then. -/
inductive Story (c : Console) (notice : Except Failure Unit) (operation : Operation) :
    List Deed -> Option Wait -> Prop where
  | begun : Story c notice operation [c.firstDeed notice operation] (c.firstWait? operation)
  | wentOn {deeds : List Deed} {wait : Wait} (before : Story c notice operation deeds (some wait))
      (answer : wait.Reply) :
      Story c notice operation (deeds ++ [c.nextDeed wait answer]) (wait.next? answer)
  | dropped {deeds : List Deed} {wait : Wait}
      (before : Story c notice operation deeds (some wait)) : Story c notice operation deeds none

section

variable {c : Console} {notice : Except Failure Unit} {operation : Operation}

theorem Story.step {c' : Console} {task : Nat} {deeds : List Deed} (numbered : c'.Numbered)
    (known : task ≤ c'.started) (settings : c'.settings = c.settings)
    (display : c'.hasLogDisplay = c.hasLogDisplay)
    (h : c.Story notice operation deeds (c'.wait? task)) (m : Move) :
    c.Story notice operation (deeds ++ ofTask task (c'.deed? m).toList)
      ((c'.step m).wait? task) := by
  cases waits : c'.wait? task with
  | none =>
      rcases stays_over numbered known waits m with ⟨deed, after⟩
      rw [waits] at h
      rwa [deed, after, List.append_nil]
  | some wait =>
      rw [waits] at h
      cases turnOf numbered known waits m with
      | goesOn answer resumed deed after =>
          rw [deed, after, nextDeed_congr settings display]
          simpa [ofTask] using h.wentOn answer
      | dropped drops deed after =>
          rw [deed, after]
          simpa [ofTask] using h.dropped
      | waitsOn deed after => rwa [deed, after, List.append_nil]

theorem deeds_cons (c : Console) (m : Move) (rest : List Move) (task : Nat) :
    c.deeds (m :: rest) task =
      ofTask task (c.deed? m).toList ++ (c.step m).deeds rest task := by
  unfold deeds
  rw [trace, ofTask_append]

theorem deeds_snoc (c : Console) (moves : List Move) (m : Move) (task : Nat) :
    c.deeds (moves ++ [m]) task =
      c.deeds moves task ++ ofTask task ((c.play moves).deed? m).toList := by
  unfold deeds
  rw [trace_snoc, ofTask_append]

theorem started_le_play (c : Console) (moves : List Move) :
    c.started ≤ (c.play moves).started := by
  refine play_keeps (P := fun c' => c.started ≤ c'.started) ?_ (Nat.le_refl _) moves
  intro c' m h
  rw [step_started]
  cases m with
  | start operation notice => exact Nat.le_succ_of_le h
  | _ => exact h

theorem known_play (c : Console) (operation : Operation) (notice : Except Failure Unit)
    (after : List Move) :
    c.started + 1 ≤ (c.play (.start operation notice :: after)).started := by
  have known := started_le_play (c.step (.start operation notice)) after
  rwa [step_started] at known

theorem deeds_start (c : Console) (operation : Operation) (notice : Except Failure Unit) :
    c.deeds [.start operation notice] (c.started + 1) = [c.firstDeed notice operation] := by
  simp [deeds, trace, deed?, ofTask]

/-- Every run of a console tells a story of the operation with which it begins. -/
theorem story_play (numbered : c.Numbered) (operation : Operation) (notice : Except Failure Unit)
    (after : List Move) :
    let run := Move.start operation notice :: after
    c.Story notice operation (c.deeds run (c.started + 1))
      ((c.play run).wait? (c.started + 1)) := by
  dsimp only
  induction after using List.reverseRecOn with
  | nil =>
      have waits := wait?_start c numbered operation notice (c.started + 1)
      rw [if_pos rfl] at waits
      rw [deeds_start, play_cons, play_nil, Console.step, waits]
      exact .begun
  | append_singleton after m ih =>
      have numbered' := numbered.play (.start operation notice :: after)
      rw [← List.cons_append, play_snoc, deeds_snoc]
      exact ih.step numbered' (known_play c operation notice after) (play_settings c _)
        (play_hasLogDisplay c _) m

end

/-! ## Observations and deeds -/

section

variable (c : Console) (moves : List Move) (task : Nat)

theorem parts_fit {α : Type} {observe : Console -> Move -> α} {Fits : α -> Deed -> Prop}
    (fits : forall c m task deed, deed? c m = some (task, deed) -> Fits (observe c m) deed) :
    List.Forall₂ Fits (c.parts observe moves task) (c.deeds moves task) := by
  induction moves generalizing c with
  | nil => exact .nil
  | cons m rest ih =>
      have later := ih (c.step m)
      unfold parts deeds at later ⊢
      rw [trace, trace, ofTask_append]
      refine List.rel_append ?_ later
      cases found : c.deed? m with
      | none => simp [runs?, found, ofTask]
      | some entry =>
          by_cases mine : entry.1 = task
          · simpa [runs?, found, ofTask, mine] using fits c m entry.1 entry.2 found
          · simp [runs?, found, ofTask, mine]

/-- What holds of all deeds of an operation shows in all that is seen of its parts. -/
theorem forall_parts {α : Type} {observe : Console -> Move -> α} {Holds : Deed -> Prop}
    {Shows : α -> Prop}
    (shows : forall c m task deed, deed? c m = some (task, deed) -> Holds deed ->
      Shows (observe c m))
    (holds : forall deed, deed ∈ c.deeds moves task -> Holds deed) :
    forall seen, seen ∈ c.parts observe moves task -> Shows seen := by
  have fits : List.Forall₂ (fun seen deed => Holds deed -> Shows seen)
      (c.parts observe moves task) (c.deeds moves task) :=
    parts_fit c moves task shows
  generalize c.parts observe moves task = parts at fits
  generalize c.deeds moves task = deeds at fits holds
  induction fits with
  | nil => simp
  | cons fit _ ih =>
      intro seen member
      rcases List.mem_cons.1 member with rfl | later
      · exact fit (holds _ List.mem_cons_self)
      · exact ih (fun deed member => holds deed (List.mem_cons_of_mem _ member)) seen later

theorem callsBy_eq : c.callsBy moves task = (c.deeds moves task).flatMap Deed.calls := by
  have fits : List.Forall₂ (fun calls deed => calls = deed.calls)
      (c.parts newCalls moves task) (c.deeds moves task) := by
    apply parts_fit
    intro c m task deed found
    rw [newCalls_eq, found]
    rfl
  rw [← List.forall₂_map_right_iff, List.forall₂_eq_eq_eq] at fits
  rw [callsBy, fits, List.flatMap_def]

theorem results_play :
    (c.play moves).results = c.results ++ (c.trace deed? moves).filterMap resultOf? := by
  induction moves generalizing c with
  | nil => exact (List.append_nil _).symm
  | cons m rest ih =>
      have first : (c.deed? m).toList.filterMap resultOf? = ((c.deed? m).bind resultOf?).toList := by
        cases c.deed? m with
        | none => rfl
        | some entry => cases found : resultOf? entry <;> simp [found]
      rw [play_cons, ih, (step_writes c m).2, trace, List.filterMap_append, List.append_assoc,
        first]

theorem resultsBy_eq : c.resultsBy moves task = (c.deeds moves task).filterMap Deed.result? := by
  unfold resultsBy deeds ofTask
  rw [results_play, List.drop_left, List.filterMap_filterMap, List.filterMap_filterMap]
  congr 1
  funext entry
  unfold resultOf?
  by_cases mine : entry.1 = task
  · cases found : entry.2.result? <;> simp [mine, found]
  · cases entry.2.result? <;> simp [mine]

theorem effect_of_deed {c : Console} {m : Move} {task : Nat} {deed : Deed}
    (h : c.deed? m = some (task, deed)) : c.effect m = deed.effect := by
  cases m with
  | start operation notice =>
      cases h
      rfl
  | reply task' wait answer =>
      simp only [deed?] at h
      split at h
      · rename_i waits
        cases h
        exact if_pos waits
      · cases h
  | wake task' expired =>
      rcases Option.map_eq_some_iff.1 h with ⟨⟨id, next, outcome⟩, found, same⟩
      cases same
      simp only [effect, found]
      rfl
  | _ => cases h

theorem buffersBy_kept
    (kept : forall deed, deed ∈ c.deeds moves task -> deed.effect.change = none) :
    forall buffers, buffers ∈ c.buffersBy moves task -> buffers.2 = buffers.1 := by
  refine forall_parts c moves task ?_ kept
  intro c m task deed found unchanged
  rw [← effect_of_deed found] at unchanged
  exact (step_editor c m).trans (by rw [unchanged]; rfl)

end

end Console
end RobotConsole
