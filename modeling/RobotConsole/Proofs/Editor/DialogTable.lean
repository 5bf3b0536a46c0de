import RobotConsole.Proofs.Console.Abreast
import RobotConsole.Proofs.Console.Idle
import RobotConsole.Proofs.Editor.Guard
import RobotConsole.Proofs.Editor.Saving

/-!
# The table of the dialog

An operation that would lose unsaved changes asks for a confirmation, and the user answers the
dialog. Here nothing else runs, and the table lists what comes of each answer: what is called, how
both operations end, and what is in the buffer. Two operations take part, the one that waits and
the one that answers. They meet at the gate only, so a record of the gate, of what each of them
waits for and of what was done so far is enough to go from one row to the next.
-/

namespace RobotConsole

def Call.saves : Call -> Bool
  | savePath _ => true
  | write .. => true
  | _ => false

def BufferChange.isSave : BufferChange -> Bool
  | saved .. => true
  | _ => false

theorem foldl_change_eq {e e' : EditorState} (path : e'.path = e.path)
    {changes : List BufferChange} (some : changes ≠ [])
    (noSave : forall change, change ∈ changes -> change.isSave = false) :
    changes.foldl EditorState.change e' = changes.foldl EditorState.change e := by
  cases changes with
  | nil => exact absurd rfl some
  | cons change rest =>
      have same : e'.change change = e.change change := by
        cases change with
        | unsaved content => simp [EditorState.change, path]
        | emptied => rfl
        | opened path content => rfl
        | saved path content text => cases noSave _ List.mem_cons_self
      rw [List.foldl_cons, List.foldl_cons, same]

def Wait.fetches : Wait -> Bool
  | openPath => true
  | readFile _ => true
  | download => true
  | _ => false

theorem Guarded.refusal_aborted (next : Guarded) : next.refusal .aborted = [] := by
  cases next <;> rfl

namespace Console

/-! ## The table -/

/-- The console as if there were no unsaved changes in its buffer. -/
def withCleanBuffer (c : Console) : Console :=
  { c with state := { c.state with editor := { c.state.editor with dirty := false } } }

/-- What two operations in two consoles do is the same, and none of it saves the buffer. As long as
nothing changes a buffer each console has its own, and from then on both have the same. -/
structure DoesSame (c other : Console) (moves moves' : List Move) (mine yours : Nat) : Prop where
  calls : c.callsBy moves mine = other.callsBy moves' yours
  results : c.resultsBy moves mine = other.resultsBy moves' yours
  changes : c.bufferChanges moves = other.bufferChanges moves'
  unchanged : c.bufferChanges moves = [] ->
    (c.play moves).state.editor = c.state.editor ∧
      (other.play moves').state.editor = other.state.editor
  changed : c.bufferChanges moves ≠ [] ->
    (c.play moves).state.editor = (other.play moves').state.editor
  saves : forall call, call ∈ c.callsBy moves mine -> call.saves = false

/-- An operation that waits for its request goes on when it is woken, and from there on does what
it does when it is started in another console, whatever follows. -/
def GoesOnAs (c other : Console) (task : Nat) (operation : Operation) : Prop :=
  forall expired notice (ensuing : List Ensuing),
    c.DoesSame other
      (.wake task expired :: ensuing.map (Ensuing.move task))
      (.start operation notice :: ensuing.map (Ensuing.move (other.started + 1)))
      task (other.started + 1)

/-- A save that was to answer the dialog has called for a file to be written: at once if its path
is known, and after a prompt if it is not. -/
inductive SavesTo (c answered : Console) (answer : Nat) :
    List Call -> String -> Console -> Prop where
  | known {path : String} (known : c.state.editor.path = some path) :
      SavesTo c answered answer [] path answered
  | chosen {path : String} {writing : Console} (unknown : c.state.editor.path = none)
      (leads : answered.Leads
        (.reply answer (.savePath .answer c.state.editor.content) (some path)) writing) :
      SavesTo c answered answer [.savePath none] path writing

/-- What comes of each answer to the dialog, for an operation that was started in one console and
asks in another one. The operation that answers is the next one. -/
structure DialogTable (c asked : Console) (operation : Operation) (text : String) : Prop where
  held : c.Brought asked [] [] c.state.editor
  discarded : forall notice answered,
    asked.Leads (.start (.answer .discard) notice) answered ->
      c.Brought answered [] [(c.started + 2, .ok none)] c.state.editor ∧
        answered.GoesOnAs answered.withCleanBuffer (c.started + 1) operation
  cancelled : forall notice answered expired ended,
    asked.Leads (.start (.answer .cancel) notice) answered ->
    answered.Leads (.wake (c.started + 1) expired) ended ->
      c.Brought ended [] [(c.started + 2, .ok none), (c.started + 1, .error .aborted)]
        c.state.editor
  unnamed : c.state.editor.path = none -> forall notice answered failed expired ended,
    asked.Leads (.start (.answer .save) notice) answered ->
    answered.Leads (.reply (c.started + 2) (.savePath .answer c.state.editor.content) none)
      failed ->
    failed.Leads (.wake (c.started + 1) expired) ended ->
      c.Brought ended [.savePath none]
        [(c.started + 2, .error .aborted), (c.started + 1, .error .aborted)] c.state.editor
  /-- The file is written. It was called for before anything changed, and the operation that waits
  finds the buffer clean. -/
  saved : forall notice answered prompts path writing written,
    asked.Leads (.start (.answer .save) notice) answered ->
    c.SavesTo answered (c.started + 2) prompts path writing ->
    writing.Leads (.reply (c.started + 2) (.writeFile .answer path c.state.editor.content) (.ok ()))
      written ->
      c.Brought writing (prompts ++ [.write path text]) [] c.state.editor ∧
        c.Brought written (prompts ++ [.write path text]) [(c.started + 2, .ok none)]
          { path := some path, content := text, dirty := false } ∧
        written.GoesOnAs written (c.started + 1) operation
  unwritten : forall notice answered prompts path writing failure failed expired ended,
    asked.Leads (.start (.answer .save) notice) answered ->
    c.SavesTo answered (c.started + 2) prompts path writing ->
    writing.Leads
      (.reply (c.started + 2) (.writeFile .answer path c.state.editor.content) (.error failure))
      failed ->
    failed.Leads (.wake (c.started + 1) expired) ended ->
      c.Brought ended (prompts ++ [.write path text] ++ report "Save" failure)
        [(c.started + 2, .error failure), (c.started + 1, .error .aborted)] c.state.editor

/-! ## Where the dialog stands -/

/-- Where the dialog stands while an operation waits for its request: the verdict that was given,
if any, and what the operation that answers waits for, with all that was done since the start. -/
structure Stands (c c' : Console) (next : Guarded) (verdict? : Option Verdict)
    (answering? : Option Wait) (calls : List Call) (results : List (Nat × OperationResult))
    (editor : EditorState) : Prop where
  brought : c.Brought c' calls results editor
  given : c'.settings = c.settings ∧ c'.hasLogDisplay = c.hasLogDisplay
  gate : c'.gate = verdict?.elim c.gate.accept (c.gate.accept.deliver c.gate.next)
  holds : c'.wait? (c.started + 1) = some (.confirmation c.gate.next next)
  answering : c'.wait? (c.started + 2) = answering?
  numbered : c'.Numbered

section

variable {c c' c'' : Console} {operation : Operation} {next : Guarded} {verdict? : Option Verdict}
  {answering? : Option Wait} {calls : List Call} {results : List (Nat × OperationResult)}
  {editor : EditorState}

theorem Stands.rests (h : c.Stands c' next verdict? answering? calls results editor)
    (rests : c'.Rests c'') : c.Stands c'' next verdict? answering? calls results editor :=
  ⟨h.brought.rests rests, ⟨rests.given.1.trans h.given.1, rests.given.2.trans h.given.2⟩,
    rests.gate.trans h.gate, (rests.waits _).trans h.holds, (rests.waits _).trans h.answering,
    rests.numbered⟩

theorem Stands.answers (h : c.Stands c' next none answering? calls results editor) {m : Move}
    {deed : Deed} {wait? : Option Wait} (found : c'.deed? m = some (c.started + 2, deed))
    (moved : c'.movedOn? m = some (c.started + 2, wait?))
    (gate : (c'.step m).gate = deed.effect.answer.elim c'.gate c'.gate.answer) :
    c.Stands (c'.step m) next (deed.effect.answer.map .resolved) wait? (calls ++ deed.calls)
      (results ++ (deed.result?.map (c.started + 2, ·)).toList)
      (deed.effect.change.elim editor editor.change) := by
  have brought := h.brought.then (brought_of_deed found)
  rw [h.brought.editor] at brought
  have given := step_given c' m
  refine ⟨brought, ⟨given.1.trans h.given.1, given.2.trans h.given.2⟩, ?_, ?_, ?_,
    h.numbered.step m⟩
  · rw [gate, h.gate]
    cases deed.effect.answer <;> rfl
  · rw [wait?_step c' h.numbered, moved]
    simp [h.holds]
  · rw [wait?_step c' h.numbered, moved]
    simp

theorem Stands.reply {wait : Wait}
    (h : c.Stands c' next none (some wait) calls results editor) (isCall : wait.isCall)
    (answer : wait.Reply) :
    c.Stands (c'.step (.reply (c.started + 2) wait answer)) next
      ((wait.effect c.settings.editor answer).answer.map .resolved) (wait.next? answer)
      (calls ++ c.nextCalls wait answer)
      (results ++ ((wait.result? answer).map (c.started + 2, ·)).toList)
      ((wait.effect c.settings.editor answer).change.elim editor editor.change) := by
  have applies : wait.isCall ∧ c'.wait? (c.started + 2) = some wait := ⟨isCall, h.answering⟩
  have found : c'.deed? (.reply (c.started + 2) wait answer) =
      some (c.started + 2, c.nextDeed wait answer) := by
    rw [← nextDeed_congr h.given.1 h.given.2]
    exact if_pos applies
  refine h.answers found (if_pos applies) ?_
  rw [step_gate]
  simp only [outcomeOf, effect, if_pos applies, enact_gate, Wait.effect_asks, h.given.1]
  rfl

theorem stands_asked (numbered : c.Numbered) (guards : operation.guarded? = some next)
    (dirty : c.state.editor.dirty = true) (free : c.gate.outstanding = none)
    (notice : Except Failure Unit) :
    c.Stands (c.step (.start operation notice)) next none none [] [] c.state.editor := by
  obtain ⟨asked, waits⟩ := firstDeed_of_guarded guards dirty notice
  have deed : c.firstDeed notice operation = asking := by
    rw [asked]
    simp [askCalls, askResult?, free, asking]
  have found : c.deed? (.start operation notice) = some (c.started + 1, asking) := by
    rw [← deed]
    rfl
  have effect : c.effect (.start operation notice) = { asks := true } := effect_of_deed found
  refine ⟨brought_of_deed found, step_given c _, ?_, ?_, ?_, numbered.step _⟩
  · rw [step_gate]
    simp only [outcomeOf, effect, enact_gate]
    simp [Gate.acceptIfFree, free]
  · have began := wait?_start c numbered operation notice (c.started + 1)
    rw [if_pos rfl, waits] at began
    refine began.trans ?_
    simp [askWait?, free]
  · refine (wait?_start c numbered operation notice (c.started + 2)).trans ?_
    rw [if_neg (by omega)]
    exact numbered _ (by omega)

theorem Stands.answer (h : c.Stands c' next none answering? calls results editor)
    (started : c'.started = c.started + 1) (choice : DialogChoice)
    (notice : Except Failure Unit) :
    c.Stands (c'.step (.start (.answer choice) notice)) next
      ((Operation.effect c'.state.editor.dirty notice (.answer choice)).answer.map .resolved)
      (c'.firstWait? (.answer choice)) (calls ++ c'.firstCalls notice (.answer choice))
      (results ++ ((c'.firstResult? notice (.answer choice)).map (c.started + 2, ·)).toList)
      editor := by
  have quiet : (Operation.effect c'.state.editor.dirty notice (.answer choice)).asks = false ∧
      (Operation.effect c'.state.editor.dirty notice (.answer choice)).change = none := by
    cases choice <;> exact ⟨rfl, rfl⟩
  have found : c'.deed? (.start (.answer choice) notice) =
      some (c.started + 2, c'.firstDeed notice (.answer choice)) := by
    rw [deed?, started]
  have moved : c'.movedOn? (.start (.answer choice) notice) =
      some (c.started + 2, c'.firstWait? (.answer choice)) := by
    rw [movedOn?, started]
  have gate : (c'.step (.start (.answer choice) notice)).gate =
      (Operation.effect c'.state.editor.dirty notice (.answer choice)).answer.elim c'.gate
        c'.gate.answer := by
    rw [step_gate]
    simp only [outcomeOf, effect, enact_gate, quiet.1]
    rfl
  have began := h.answers found moved gate
  rwa [show (c'.firstDeed notice (.answer choice)).effect.change = none from quiet.2] at began

theorem Stands.answer_save (h : c.Stands c' next none answering? [] [] c.state.editor)
    (started : c'.started = c.started + 1) (notice : Except Failure Unit) :
    c.Stands (c'.step (.start (.answer .save) notice)) next none (some (c.saveWait .answer false))
      [c.saveCall false] [] c.state.editor := by
  have began := h.answer started .save notice
  have wait : c'.firstWait? (.answer .save) = some (c.saveWait .answer false) := by
    simp [firstWait?, saveWait, h.brought.editor]
  have call : c'.firstCalls notice (.answer .save) = [c.saveCall false] := by
    simp [firstCalls, saveCall, savedText, h.brought.editor, h.given.1]
  rw [wait, call] at began
  exact began

theorem SavesTo.stands {answered writing : Console} {prompts : List Call} {path : String}
    (saves : c.SavesTo answered (c.started + 2) prompts path writing)
    (h : c.Stands answered next none (some (c.saveWait .answer false)) [c.saveCall false] []
      c.state.editor) :
    c.Stands writing next none (some (.writeFile .answer path c.state.editor.content))
      (prompts ++ [.write path c.textToWrite]) [] c.state.editor := by
  cases saves with
  | known known =>
      simpa [saveWait, saveCall, known, textToWrite] using h
  | chosen unknown leads =>
      simp only [saveWait, saveCall, unknown, Bool.false_eq_true, if_false] at h
      exact (h.reply rfl (some path)).rests (leads.rests h.numbered)

/-! ## What the waiting operation finds -/

theorem Stands.posted (coherent : c.Coherent) {verdict : Verdict}
    (h : c.Stands c' next (some verdict) answering? calls results editor) :
    c'.gate.verdict? c.gate.next = some verdict := by
  rw [h.gate, Option.elim, Gate.verdict?_deliver, Gate.verdict?_accept,
    coherent.awaited.verdict?_next, if_pos rfl]
  rfl

theorem Stands.gives_up (coherent : c.Coherent)
    (h : c.Stands c' next (some (.resolved .cancelled)) answering? calls results editor)
    (expired : Bool) :
    c.Brought (c'.step (.wake (c.started + 1) expired)) calls
      (results ++ [(c.started + 1, .error .aborted)]) editor := by
  have found : c'.deed? (.wake (c.started + 1) expired) =
      some (c.started + 1, ⟨[], {}, some (.error .aborted)⟩) := by
    rw [deed?_wake_of_verdict h.holds (h.posted coherent) expired]
    simp [nextDeed, nextCalls, Verdict.outcome, next.refusal_aborted, Wait.effect, Wait.result?]
  have brought := h.brought.then (brought_of_deed found)
  rw [List.append_nil, h.brought.editor] at brought
  exact brought

structure SavesNothing (deed : Deed) : Prop where
  calls : forall call, call ∈ deed.calls -> call.saves = false
  change : forall change, deed.effect.change = some change -> change.isSave = false

theorem saves_nothing_after (c : Console) {wait : Wait} (fetches : wait.fetches)
    (answer : wait.Reply) :
    SavesNothing (c.nextDeed wait answer) ∧
      forall next, wait.next? answer = some next -> next.fetches := by
  have refused {what : String} (failure : Failure) (call : Call)
      (member : call ∈ report what failure) : call.saves = false := by
    rcases error_of_mem_report member with ⟨message, rfl⟩
    rfl
  cases wait with
  | openPath => cases answer with
    | some path =>
        refine ⟨⟨?_, ?_⟩, ?_⟩ <;>
          simp [nextDeed, nextCalls, Wait.effect, Wait.next?, Call.saves, Wait.fetches]
    | none =>
        refine ⟨⟨?_, ?_⟩, ?_⟩ <;> simp [nextDeed, nextCalls, Wait.effect, Wait.next?]
  | readFile path => cases answer with
    | ok content =>
        refine ⟨⟨?_, ?_⟩, ?_⟩ <;>
          simp [nextDeed, nextCalls, Wait.effect, Wait.next?, BufferChange.isSave]
    | error failure =>
        refine ⟨⟨refused failure, ?_⟩, ?_⟩ <;> simp [nextDeed, Wait.effect, Wait.next?]
  | download => cases answer with
    | ok content =>
        refine ⟨⟨?_, ?_⟩, ?_⟩ <;>
          simp [nextDeed, nextCalls, Wait.effect, Wait.next?, Call.saves, BufferChange.isSave]
    | error failure =>
        refine ⟨⟨refused failure, ?_⟩, ?_⟩ <;> simp [nextDeed, Wait.effect, Wait.next?]
  | _ => cases fetches

theorem Story.saves_nothing {notice : Except Failure Unit} {deeds : List Deed} {wait? : Option Wait}
    (story : c.Story notice operation deeds wait?) (guards : operation.guarded? = some next)
    (clean : c.state.editor.dirty = false) :
    (forall deed, deed ∈ deeds -> SavesNothing deed) ∧
      forall wait, wait? = some wait -> wait.fetches := by
  obtain ⟨first, waits⟩ := firstDeed_of_clean guards clean notice
  induction story with
  | begun =>
      rw [first, waits]
      refine ⟨?_, ?_⟩
      · intro deed member
        rw [List.mem_singleton.1 member]
        cases next <;>
          exact ⟨by simp [Guarded.fetches, Call.saves], by simp [Guarded.effect, BufferChange.isSave]⟩
      · cases next <;> simp [Guarded.wait?, Wait.fetches]
  | wentOn before answer ih =>
      have after := saves_nothing_after c (ih.2 _ rfl) answer
      refine ⟨?_, after.2⟩
      intro deed member
      rcases List.mem_append.1 member with earlier | last
      · exact ih.1 deed earlier
      · rw [List.mem_singleton.1 last]
        exact after.1
  | dropped before ih => exact ⟨ih.1, by simp⟩

theorem change_of_ensuing {task : Nat} {ensuing : List Ensuing} {change : BufferChange}
    (mem : change ∈ c.bufferChanges (ensuing.map (Ensuing.move task))) :
    (exists content, change = .unsaved content) ∨
      exists deed, deed ∈ c.deeds (ensuing.map (Ensuing.move task)) task ∧
        deed.effect.change = some change := by
  induction ensuing generalizing c with
  | nil => cases mem
  | cons e rest ih =>
      rw [List.map_cons, bufferChanges_cons] at mem
      rw [List.map_cons, deeds_cons]
      rcases List.mem_append.1 mem with here | later
      · have made := Option.mem_toList.1 here
        cases e with
        | reply wait answer =>
            right
            by_cases applies : wait.isCall ∧ c.wait? task = some wait
            · have found : c.deed? (Ensuing.move task (.reply wait answer)) =
                  some (task, c.nextDeed wait answer) := if_pos applies
              rw [effect_of_deed found] at made
              exact ⟨_, by simp [found, ofTask], made⟩
            · have idle : c.effect (Ensuing.move task (.reply wait answer)) = {} := if_neg applies
              rw [idle] at made
              cases made
        | edit content =>
            cases made
            exact .inl ⟨content, rfl⟩
        | feed f => cases f <;> cases made
      · rcases ih later with typed | ⟨deed, done, made⟩
        · exact .inl typed
        · exact .inr ⟨deed, List.mem_append_right _ done, made⟩

theorem Stands.goes_on (coherent : c.Coherent)
    (h : c.Stands c' next (some (.resolved .confirmed)) answering? calls results editor)
    (guards : operation.guarded? = some next) {other : Console}
    (settings : other.settings = c'.settings) (display : other.hasLogDisplay = c'.hasLogDisplay)
    (path : other.state.editor.path = c'.state.editor.path)
    (numbered : other.Numbered) (clean : other.state.editor.dirty = false) :
    c'.GoesOnAs other (c.started + 1) operation := by
  intro expired notice ensuing
  have posted := h.posted coherent
  obtain ⟨first, waits⟩ := firstDeed_of_clean guards clean notice
  have found := deed?_wake_of_verdict h.holds posted expired
  have found' : other.deed? (.start operation notice) =
      some (other.started + 1, c'.nextDeed (.confirmation c.gate.next next) (.ok ())) := by
    rw [deed?, first, settings]
    rfl
  have abreast : (c'.step (.wake (c.started + 1) expired)).Abreast
      (other.step (.start operation notice)) (c.started + 1) (other.started + 1) := by
    apply abreast_step next.wait? settings display ⟨h.numbered, numbered⟩
    · rw [step, wait?_wake c' (collected?_of_verdict h.holds posted expired), if_pos rfl]
      rfl
    · rw [step, wait?_start other numbered, if_pos rfl, waits]
  obtain ⟨deeds, changes⟩ := abreast.play ensuing
  have deeds : c'.deeds (.wake (c.started + 1) expired :: ensuing.map (Ensuing.move (c.started + 1)))
        (c.started + 1) =
      other.deeds (.start operation notice :: ensuing.map (Ensuing.move (other.started + 1)))
        (other.started + 1) := by
    rw [deeds_cons, deeds_cons, deeds, found, found']
    simp [ofTask, Verdict.outcome]
  have changes : c'.bufferChanges
        (.wake (c.started + 1) expired :: ensuing.map (Ensuing.move (c.started + 1))) =
      other.bufferChanges
        (.start operation notice :: ensuing.map (Ensuing.move (other.started + 1))) := by
    rw [bufferChanges_cons, bufferChanges_cons, changes, effect_of_deed found,
      effect_of_deed found']
    rfl
  have savesNothing := ((story_play numbered operation notice
    (ensuing.map (Ensuing.move (other.started + 1)))).saves_nothing guards clean).1
  constructor
  · rw [callsBy_eq, callsBy_eq, deeds]
  · rw [resultsBy_eq, resultsBy_eq, deeds]
  · exact changes
  · intro without
    rw [editor_play, editor_play, ← changes, without]
    exact ⟨rfl, rfl⟩
  · intro made
    rw [editor_play, editor_play, ← changes]
    refine (foldl_change_eq path made ?_).symm
    intro change mem
    rw [changes, bufferChanges_cons] at mem
    rcases List.mem_append.1 mem with begins | later
    · rw [effect_of_deed found'] at begins
      refine (savesNothing _ ?_).change _ (Option.mem_toList.1 begins)
      rw [deeds_cons, found']
      simp [ofTask]
    · rcases change_of_ensuing later with ⟨content, rfl⟩ | ⟨deed, done, made⟩
      · rfl
      · refine (savesNothing deed ?_).change _ made
        rw [deeds_cons]
        exact List.mem_append_right _ done
  · intro call made
    rw [callsBy_eq, deeds] at made
    obtain ⟨deed, member, call⟩ := List.mem_flatMap.1 made
    exact (savesNothing deed member).calls _ call

end

/-- The table holds for every operation that would lose unsaved changes, if nothing else runs and
the answer is there before the time of the request is up. Saving writes the normalized text once,
before the operation that waits calls for anything and before the buffer is replaced; the operation
then does what it does with a clean buffer. If nothing could be saved, or on a cancel, it is given
up, and the buffer stays as it was; on a discard it goes on and nothing is saved. -/
theorem dialog_table (settings : Settings) (hasLogDisplay : Bool) (before : List Move)
    (operation : Operation) (notice : Except Failure Unit)
    (guards : operation.guarded?.isSome)
    (dirty : ((fresh settings hasLogDisplay).play before).state.editor.dirty = true)
    (free : ((fresh settings hasLogDisplay).play before).gate.outstanding = none) :
    let c := (fresh settings hasLogDisplay).play before
    forall asked, c.Leads (.start operation notice) asked ->
      c.DialogTable asked operation (Editor.normalize settings.editor c.state.editor.content) := by
  intro c asked asks
  obtain ⟨next, guards⟩ := Option.isSome_iff_exists.1 guards
  have coherent : c.Coherent := coherent_play settings hasLogDisplay before
  have text : c.textToWrite = Editor.normalize settings.editor c.state.editor.content := by
    unfold textToWrite savedText
    rw [show c.settings = settings from play_settings _ before]
  have begun := asks.rests coherent.numbered
  have stands := (stands_asked coherent.numbered guards dirty free notice).rests begun
  have started : asked.started = c.started + 1 := begun.started.trans (step_started c _)
  have saving {notice : Except Failure Unit} {answered : Console}
      (given : asked.Leads (.start (.answer .save) notice) answered) :=
    (stands.answer_save started notice).rests (given.rests stands.numbered)
  rw [← text]
  constructor
  case held => exact stands.brought
  case discarded =>
    intro notice answered given
    have there := (stands.answer started .discard notice).rests (given.rests stands.numbered)
    exact ⟨there.brought, there.goes_on coherent guards rfl rfl rfl there.numbered rfl⟩
  case cancelled =>
    intro notice answered expired ended given wakes
    have there := (stands.answer started .cancel notice).rests (given.rests stands.numbered)
    exact (there.gives_up coherent expired).rests (wakes.rests there.numbered)
  case unnamed =>
    intro unknown notice answered failed expired ended given refused wakes
    have prompting := saving given
    simp only [saveWait, saveCall, unknown, Bool.false_eq_true, if_false] at prompting
    have there := (prompting.reply rfl none).rests (refused.rests prompting.numbered)
    exact (there.gives_up coherent expired).rests (wakes.rests there.numbered)
  case saved =>
    intro notice answered prompts path writing written given saves replies
    have writes := saves.stands (saving given)
    have there := (writes.reply rfl (.ok ())).rests (replies.rests writes.numbered)
    have editor : written.state.editor =
        { path := some path, content := c.textToWrite, dirty := false } :=
      there.brought.editor.trans (if_pos rfl)
    have silent : c.nextCalls (.writeFile .answer path c.state.editor.content) (.ok ()) = [] := rfl
    have calls := there.brought.calls
    rw [silent, List.append_nil] at calls
    exact ⟨writes.brought, ⟨calls, there.brought.results, editor⟩,
      there.goes_on coherent guards rfl rfl rfl there.numbered (by rw [editor])⟩
  case unwritten =>
    intro notice answered prompts path writing failure failed expired ended given saves replies wakes
    have writes := saves.stands (saving given)
    have there := (writes.reply rfl (.error failure)).rests (replies.rests writes.numbered)
    exact (there.gives_up coherent expired).rests (wakes.rests there.numbered)

theorem leads_step (c : Console) (m : Move) : c.Leads m (c.step m) :=
  ⟨[], trivial, rfl⟩

/-- A draft without a name is saved to make room for a new file, while the clock ticks and the
operation that waits looks in vain for an answer. -/
theorem dialog_table_of_draft :
    let c := (fresh {}).play [.edit "draft"]
    let asked := (c.step (.start .create (.ok ()))).play [.wake 1 false, Feed.move (.tick 0)]
    let answered := asked.step (.start (.answer .save) (.ok ()))
    let writing := answered.step (.reply 2 (.savePath .answer "draft") (some "a.py"))
    let written := writing.step (.reply 2 (.writeFile .answer "a.py" "draft") (.ok ()))
    c.Brought written [.savePath none, .write "a.py" "draft\n"] [(2, .ok none)]
        { path := some "a.py", content := "draft\n", dirty := false } ∧
      written.GoesOnAs written 1 .create := by
  intro c asked answered writing written
  have asks : c.Leads (.start .create (.ok ())) asked :=
    ⟨[.wake 1 false, Feed.move (.tick 0)],
      ⟨idles_wake (by decide), idles_feed (.tick 0), trivial⟩, rfl⟩
  have table := dialog_table {} true [.edit "draft"] .create (.ok ()) (by decide) (by decide)
    (by decide) asked asks
  have saves : c.SavesTo answered 2 [.savePath none] "a.py" writing :=
    .chosen rfl (leads_step answered _)
  have saved := table.saved (.ok ()) answered _ _ writing written (leads_step asked _) saves
    (leads_step writing _)
  have text : Editor.normalize ({} : Settings).editor
      ((fresh {}).play [.edit "draft"]).state.editor.content = "draft\n" := by decide
  have brought := saved.2.1
  rw [text] at brought
  exact ⟨brought, saved.2.2⟩

end Console
end RobotConsole
