import RobotConsole.Proofs.Console.Course
import RobotConsole.Proofs.Editor.Disk
import RobotConsole.Proofs.Gate.Coherence

/-!
# Answers to the dialog

An answer that saves the buffer takes its text at once, but the gate hears of it only
when the text is written. Until then the user may type on, and the request that the
dialog showed may come to its end and make room for another one. Here a call is followed
from the move that makes it to the move that gives the answer: the answer tells of the
buffer as it was when the dialog was answered, and goes to the request that is
outstanding at the end.
-/

namespace RobotConsole

/-- What an operation waits for that saves a text to answer the dialog. -/
def Wait.AnswersWith (content : String) : Wait -> Prop
  | savePath .answer content' => content' = content
  | writeFile .answer _ content' => content' = content
  | _ => False

theorem Wait.answersWith_passedOn (content : String) :
    Wait.PassedOn (Wait.AnswersWith content) := by
  intro wait answer next h goesOn
  cases wait with
  | savePath purpose content' => cases purpose with
    | request => cases h
    | answer => cases answer with
      | none => cases goesOn
      | some path =>
          cases goesOn
          exact h
  | writeFile purpose path content' => cases answer <;> cases goesOn
  | _ => cases h

theorem Wait.written_of_confirmed {settings : EditorSettings} {content : String} {wait : Wait}
    {answer : wait.Reply} (h : wait.AnswersWith content)
    (confirms : (wait.effect settings answer).answer = some .confirmed) :
    exists path, (⟨wait, answer⟩ : (wait : Wait) × wait.Reply) =
      ⟨.writeFile .answer path content, .ok ()⟩ := by
  cases wait with
  | savePath purpose content' => cases purpose with
    | request => cases h
    | answer => cases answer <;> cases confirms
  | writeFile purpose path content' => cases purpose with
    | request => cases h
    | answer => cases answer with
      | ok done =>
          cases h
          exists path
      | error failure => cases confirms
  | _ => cases h

namespace Console

/-! ## Observations -/

/-- The operation that answers the dialog in a move, and its answer. -/
def dialogAnswer? (c : Console) (m : Move) : Option (Nat × Resolution) :=
  (c.movedOn? m).bind fun moved => (c.effect m).answer.map fun resolution => (moved.1, resolution)

def bufferChanges (c : Console) (moves : List Move) : List BufferChange :=
  c.trace (fun c m => (c.effect m).change) moves

section

variable {c : Console} {m : Move} {task : Nat} {resolution : Resolution}

theorem moved_of_dialogAnswer (answers : c.dialogAnswer? m = some (task, resolution)) :
    (exists wait?, c.movedOn? m = some (task, wait?)) ∧
      (c.effect m).answer = some resolution := by
  unfold dialogAnswer? at answers
  rcases Option.bind_eq_some_iff.1 answers with ⟨⟨task', wait?⟩, moved, found⟩
  rcases Option.map_eq_some_iff.1 found with ⟨resolution', answer, same⟩
  cases same
  constructor
  · exists wait?
  · exact answer

theorem begins_or_replies_of_dialogAnswer
    (answers : c.dialogAnswer? m = some (task, resolution)) :
    (task = c.started + 1 ∧ exists operation notice, m = .start operation notice) ∨
      exists wait answer, m = .reply task wait answer ∧ c.wait? task = some wait ∧
        (wait.effect c.settings.editor answer).answer = some resolution := by
  rcases moved_of_dialogAnswer answers with ⟨⟨wait?, moved⟩, answer⟩
  cases m with
  | start operation notice =>
      cases moved
      exact .inl ⟨rfl, operation, notice, rfl⟩
  | reply task' wait reply =>
      simp only [movedOn?] at moved
      simp only [effect] at answer
      split at moved
      · rename_i applies
        cases moved
        rw [if_pos applies] at answer
        exact .inr ⟨wait, reply, rfl, applies.2, answer⟩
      · cases moved
  | wake task' expired =>
      simp only [effect] at answer
      cases found : c.collected? task' expired with
      | none =>
          rw [found] at answer
          cases answer
      | some collected =>
          rw [found] at answer
          dsimp only at answer
          rw [Wait.effect_confirmation] at answer
          cases answer
  | drop task' => cases answer
  | _ => cases moved

theorem release?_of_dialogAnswer (answers : c.dialogAnswer? m = some (task, resolution))
    {id : RequestId} (taken : c.gate.outstanding = some id) :
    c.release? m = some (id, .answered resolution) := by
  have answer := (moved_of_dialogAnswer answers).2
  have own : c.releaseOf? id m = (c.effect m).answer.map .answered := by
    rcases begins_or_replies_of_dialogAnswer answers with
      ⟨_, operation, notice, rfl⟩ | ⟨wait, reply, rfl, _⟩
    · rfl
    · rfl
  unfold release?
  rw [taken, Option.bind_some, own, answer]
  rfl

/-! ## A call on its way -/

theorem firstWait?_answer {choice : DialogChoice} {wait : Wait}
    (first : c.firstWait? (.answer choice) = some wait) :
    choice = .save ∧ wait.AnswersWith c.state.editor.content := by
  cases choice with
  | discard => cases first
  | cancel => cases first
  | save =>
      cases first
      constructor
      · rfl
      · unfold saveWait
        split <;> rfl

theorem written_of_confirmed {content : String} (course : c.Course task (Wait.AnswersWith content))
    (answers : c.dialogAnswer? m = some (task, .confirmed)) :
    exists path, m = .reply task (.writeFile .answer path content) (.ok ()) ∧
      c.wait? task = some (.writeFile .answer path content) := by
  rcases begins_or_replies_of_dialogAnswer answers with
    ⟨new, _⟩ | ⟨wait, reply, isReply, waits, answer⟩
  · have known := course.known
    omega
  · rcases Wait.written_of_confirmed (course.waits wait waits) answer with ⟨path, same⟩
    cases same
    exists path

/-! ## The buffer that the answer finds -/

theorem bufferChanges_cons (m : Move) (rest : List Move) :
    c.bufferChanges (m :: rest) =
      (c.effect m).change.toList ++ (c.step m).bufferChanges rest := rfl

theorem editor_play (moves : List Move) :
    (c.play moves).state.editor =
      (c.bufferChanges moves).foldl EditorState.change c.state.editor := by
  unfold bufferChanges
  induction moves generalizing c with
  | nil => rfl
  | cons m rest ih =>
      rw [play_cons, ih, step_editor, trace, List.foldl_append]
      cases (c.effect m).change <;> rfl

end

/-- A save leaves the buffer clean and with the text that was written exactly if the buffer
still has the text that was to be saved, or was brought to just this by others. -/
theorem saved_iff (e : EditorState) (path content text : String) :
    ((e.saved path content text).dirty = false ∧ (e.saved path content text).content = text) ↔
      e.content = content ∨ (e.dirty = false ∧ e.content = text) := by
  unfold EditorState.saved
  split
  · rename_i same
    exact iff_of_true ⟨rfl, rfl⟩ (.inl same)
  · rename_i differs
    constructor
    · exact .inr
    · rintro (same | there)
      · exact absurd same differs
      · exact there

theorem foldl_unsaved (e : EditorState) {changes : List BufferChange}
    (typing : forall change, change ∈ changes -> exists typed, change = .unsaved typed) :
    changes.foldl EditorState.change e =
      match changes.getLast? with
      | some (.unsaved typed) => { e with content := typed, dirty := true }
      | _ => e := by
  induction changes using List.reverseRecOn with
  | nil => rfl
  | append_singleton changes change ih =>
      have before := ih fun change' mem => typing change' (List.mem_append_left _ mem)
      rcases typing change (by simp) with ⟨typed, rfl⟩
      rw [List.foldl_append, before, List.getLast?_concat]
      split <;> rfl

/-- Nothing came into the buffer but text that is not saved, as when the user types. -/
def UnsavedOnly (c : Console) (moves : List Move) : Prop :=
  forall change, change ∈ c.bufferChanges moves -> exists typed, change = .unsaved typed

/-- When an answer that saves the buffer lets the waiting operation go on, the text that the
buffer had when the dialog was answered has just been written. The buffer is left clean and with
what was written exactly if it still has that text, or was brought to just this by others; where
only unsaved text came into it meanwhile, exactly if the last such text is that text again. -/
theorem saved_when_confirmed_iff (settings : Settings) (hasLogDisplay : Bool)
    (before during : List Move) (notice : Except Failure Unit) (m : Move)
    (answers : let start := (fresh settings hasLogDisplay).play before
      ((start.step (.start (.answer .save) notice)).play during).dialogAnswer? m =
        some (start.started + 1, .confirmed)) :
    let start := (fresh settings hasLogDisplay).play before
    let saving := start.step (.start (.answer .save) notice)
    let c := saving.play during
    let content := start.state.editor.content
    let text := Editor.normalize settings.editor content
    let saved := (c.step m).state.editor.dirty = false ∧ (c.step m).state.editor.content = text
    (exists path, c.fileEvent? m = some (.wrote path content text)) ∧
    (saved ↔ c.state.editor.content = content ∨
      (c.state.editor.dirty = false ∧ c.state.editor.content = text)) ∧
    (saving.UnsavedOnly during ->
      (saved ↔ forall typed, (saving.bufferChanges during).getLast? = some (.unsaved typed) ->
        typed = content)) := by
  intro start saving c content text saved
  have begun : saving.Course (start.started + 1) (Wait.AnswersWith content) :=
    course_start (coherent_play settings hasLogDisplay before).numbered (.answer .save) notice
      fun _ first => (firstWait?_answer first).2
  have course : c.Course (start.started + 1) (Wait.AnswersWith content) :=
    begun.play (Wait.answersWith_passedOn content) during
  rcases written_of_confirmed course answers with ⟨path, isReply, waits⟩
  have sameSettings : c.settings = settings := by
    show ((start.step _).play during).settings = settings
    rw [play_settings, step_settings, play_settings]
    rfl
  have event : c.fileEvent? m = some (.wrote path content text) := by
    rw [isReply]
    simp only [fileEvent?]
    rw [if_pos waits, savedText, sameSettings]
  have after : (c.step m).state.editor = c.state.editor.saved path content text := by
    rw [step_editor, isReply]
    simp only [effect]
    rw [if_pos ⟨rfl, waits⟩, sameSettings]
    rfl
  have savedIff : saved ↔ c.state.editor.content = content ∨
      (c.state.editor.dirty = false ∧ c.state.editor.content = text) := by
    show (_ ∧ _) ↔ _
    rw [after]
    exact saved_iff c.state.editor path content text
  refine ⟨⟨path, event⟩, savedIff, ?_⟩
  intro typing
  have untouched : saving.state.editor = start.state.editor := by
    rw [step_editor]
    rfl
  have editor : c.state.editor = _ := editor_play during
  rw [foldl_unsaved _ typing, untouched] at editor
  rw [savedIff, editor]
  split
  · rename_i typed last
    rw [last]
    simp
  · rename_i nothing
    refine iff_of_true (.inl rfl) ?_
    intro typed last
    exact absurd last (nothing typed)

/-- The user chooses where to save the draft, and types before it is written. -/
def typedWhileSaving (typed : String) : List Move :=
  [.reply 2 (.savePath .answer "draft") (some "a.py"),
    .edit typed]

def draftInTheWay : List Move :=
  [.edit "draft",
    .start .create (.ok ())]

theorem saved_when_draft_typed_again :
    let saving := ((fresh {}).play draftInTheWay).step (.start (.answer .save) (.ok ()))
    let c := saving.play (typedWhileSaving "draft")
    let written := Move.reply 2 (.writeFile .answer "a.py" "draft") (.ok ())
    c.dialogAnswer? written = some (2, .confirmed) ∧
      (c.step written).state.editor.dirty = false ∧
      (c.step written).state.editor.content = "draft\n" := by
  intro saving c written
  have answers : c.dialogAnswer? written = some (2, .confirmed) := by
    decide
  have saved := (saved_when_confirmed_iff {} true draftInTheWay (typedWhileSaving "draft") (.ok ())
    written answers).2.1
  refine ⟨answers, saved.2 (.inl ?_)⟩
  decide

/-- What the user types while the save is going on is unsaved when the answer lets the new file
take its place, and is lost. -/
theorem confirmed_without_later_text :
    let saving := ((fresh {}).play draftInTheWay).step (.start (.answer .save) (.ok ()))
    let c := saving.play (typedWhileSaving "draft and more")
    let written := Move.reply 2 (.writeFile .answer "a.py" "draft") (.ok ())
    c.release? written = some (⟨1⟩, .answered .confirmed) ∧
      (c.step written).state.editor =
        { path := some "a.py", content := "draft and more", dirty := true } ∧
      ((c.step written).step (.wake 1 false)).state.editor = {} := by
  decide

/-! ## The request that the answer finds -/

theorem Coherent.play {c : Console} (h : c.Coherent) (moves : List Move) :
    (c.play moves).Coherent :=
  play_keeps (P := Coherent) (fun _ m h => h.step m) h moves

theorem Coherent.outstanding_play {c : Console} (h : c.Coherent) (moves : List Move)
    {id : RequestId} (taken : (c.play moves).gate.outstanding = some id) :
    c.gate.outstanding = some id ∨ id ∈ c.acceptances moves := by
  induction moves using List.reverseRecOn with
  | nil => exact .inl taken
  | append_singleton moves m ih =>
      rw [play_snoc] at taken
      rw [acceptances_snoc, List.mem_append]
      by_cases before : (c.play moves).gate.outstanding = some id
      · rcases ih before with old | accepted
        · exact .inl old
        · exact .inr (.inl accepted)
      · have accepted := (((h.play moves).gateStep m).acceptance_iff id).2 ⟨before, taken⟩
        right
        right
        simp [accepted]

theorem outstanding_not_accepted_later (settings : Settings) (hasLogDisplay : Bool)
    (before later : List Move) {id : RequestId}
    (taken : ((fresh settings hasLogDisplay).play before).gate.outstanding = some id) :
    id ∉ ((fresh settings hasLogDisplay).play before).acceptances later := by
  intro again
  have known : id ∈ (fresh settings hasLogDisplay).acceptances before := by
    rw [mem_acceptances]
    exact (coherent_play settings hasLogDisplay before).awaited.accepted_of_outstanding taken
  have increase := acceptances_increase settings hasLogDisplay (before ++ later)
  unfold acceptances at increase
  rw [trace_append] at increase
  exact Nat.lt_irrefl _ ((List.pairwise_append.1 increase).2.2 id known id again)

theorem answers_at_once {start : Console} (numbered : start.Numbered) {choice : DialogChoice}
    {notice : Except Failure Unit} (plain : choice ≠ .save) {calls : List Move} {m : Move}
    {resolution : Resolution} (begins : (calls ++ [m]).head? = some (.start (.answer choice) notice))
    (answers : (start.play calls).dialogAnswer? m = some (start.started + 1, resolution)) :
    calls = [] := by
  cases calls with
  | nil => rfl
  | cons first rest =>
      cases begins
      have begun : (start.step (.start (.answer choice) notice)).Course (start.started + 1)
          fun _ => False :=
        course_start numbered (.answer choice) notice
          fun _ first => plain (firstWait?_answer first).1
      have ended := begun.play (fun _ _ _ never _ => never) rest
      rcases begins_or_replies_of_dialogAnswer answers with ⟨new, _⟩ | ⟨wait, _, _, waits, _⟩
      · have known := ended.known
        simp only [play_cons] at new
        omega
      · exact (ended.waits wait waits).elim

/-- A call that answers the dialog resolves the request that was outstanding when it was made,
or none, exactly if no request that was accepted since then is outstanding when it gives its
answer. Only a call that saves the buffer first can find such a request. -/
theorem answers_own_request_iff (settings : Settings) (hasLogDisplay : Bool)
    (before calls : List Move) (choice : DialogChoice) (notice : Except Failure Unit) (m : Move)
    (resolution : Resolution)
    (begins : (calls ++ [m]).head? = some (.start (.answer choice) notice))
    (answers : let start := (fresh settings hasLogDisplay).play before
      (start.play calls).dialogAnswer? m = some (start.started + 1, resolution)) :
    let start := (fresh settings hasLogDisplay).play before
    let c := start.play calls
    let own := forall id way, c.release? m = some (id, way) -> start.gate.outstanding = some id
    (own ↔ forall id, id ∈ start.acceptances calls -> c.gate.outstanding ≠ some id) ∧
      (choice ≠ .save -> own) := by
  intro start c own
  have coherent : start.Coherent := coherent_play settings hasLogDisplay before
  have coherent' : c.Coherent := coherent.play calls
  have ownIff : own ↔
      forall id, id ∈ start.acceptances calls -> c.gate.outstanding ≠ some id := by
    constructor
    · intro isOwn id accepted taken
      have was := isOwn id _ (release?_of_dialogAnswer answers taken)
      exact outstanding_not_accepted_later settings hasLogDisplay before calls was accepted
    · intro nothingNew id way released
      have taken := ((coherent'.gateStep m).outstanding_of_release released).1
      rcases coherent.outstanding_play calls taken with was | accepted
      · exact was
      · exact absurd taken (nothingNew id accepted)
  constructor
  · exact ownIff
  · intro plain
    have atOnce := answers_at_once coherent.numbered plain begins answers
    apply ownIff.2
    intro id accepted
    rw [atOnce] at accepted
    cases accepted

def answeredBySaving : List Move :=
  [.start (.answer .save) (.ok ()),
    .reply 2 (.savePath .answer "draft") (some "a.py")]

theorem answers_own_request_of_draft :
    let start := (fresh {}).play draftInTheWay
    let c := start.play answeredBySaving
    let written := Move.reply 2 (.writeFile .answer "a.py" "draft") (.ok ())
    c.dialogAnswer? written = some (start.started + 1, .confirmed) ∧
      c.release? written = some (⟨1⟩, .answered .confirmed) ∧
      start.gate.outstanding = some ⟨1⟩ := by
  intro start c written
  have answers : c.dialogAnswer? written = some (start.started + 1, .confirmed) := by
    decide
  have released : c.release? written = some (⟨1⟩, .answered .confirmed) := by
    decide
  have nothingNew : start.acceptances answeredBySaving = [] := by
    decide
  have own := (answers_own_request_iff {} true draftInTheWay answeredBySaving .save (.ok ())
    written .confirmed rfl answers).1
  refine ⟨answers, released, own.2 ?_ ⟨1⟩ (.answered .confirmed) released⟩
  intro id accepted
  rw [nothingNew] at accepted
  cases accepted

/-- While the save is going on the first request runs out of time and the user asks for a new
file once more. The answer, which was given for the first request, resolves the second one. -/
theorem answer_resolves_later_request :
    let start := (fresh {}).play draftInTheWay
    let c := start.play (answeredBySaving ++ [.wake 1 true, .start .create (.ok ())])
    let written := Move.reply 2 (.writeFile .answer "a.py" "draft") (.ok ())
    start.gate.outstanding = some ⟨1⟩ ∧
      c.dialogAnswer? written = some (2, .confirmed) ∧
      c.release? written = some (⟨2⟩, .answered .confirmed) := by
  decide

end Console
end RobotConsole
