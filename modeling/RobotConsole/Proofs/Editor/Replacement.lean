import RobotConsole.Proofs.Gate.Coherence

/-!
# Replacing the buffer

An operation that replaces the buffer looks for unsaved changes when it begins, and if
there are any it is let through by the user. The buffer is replaced only later, when a
path, a file or the code on the controller has come. Here a run is followed together
with the unsaved text that came into the buffer after an operation was let through:
nothing else is ever lost that the user did not give up.
-/

namespace RobotConsole

def BufferChange.replaces : BufferChange -> Bool
  | saved .. => false
  | _ => true

/-- What an operation waits for that was let through and is to replace the buffer. -/
def Wait.replaces : Wait -> Bool
  | openPath => true
  | readFile _ => true
  | download => true
  | _ => false

namespace Console

/-! ## Observations -/

def replaces? (c : Console) (m : Move) : Option Nat :=
  if (c.effect m).change.any BufferChange.replaces then (c.movedOn? m).map Prod.fst else none

/-- The text that is in the buffer when the request of an operation is confirmed. -/
def confirmedText? (task : Nat) (c : Console) (m : Move) : Option String :=
  match c.release? m with
  | some (id, .answered .confirmed) =>
      if c.request? task = some id then some (c.step m).state.editor.content else none
  | _ => none

def confirmedTexts (c : Console) (moves : List Move) (task : Nat) : List String :=
  c.trace (confirmedText? task) moves

def startsClean (task : Nat) (c : Console) : Move -> Bool
  | .start .. => task = c.started + 1 && !c.state.editor.dirty
  | _ => false

def letsThrough (task : Nat) (c : Console) (m : Move) : Bool :=
  c.startsClean task m || (c.confirmedText? task m).isSome

/-- The unsaved text that came into the buffer after an operation was let through, as long as
it is there. -/
def lateTextAfter (task : Nat) (c : Console) (m : Move) (late : Option String) : Option String :=
  if c.letsThrough task m ∨ (c.step m).state.editor.dirty = false then none
  else
    match (c.effect m).change with
    | some (.unsaved text) => some text
    | _ => late

def lateText? (c : Console) (moves : List Move) (task : Nat) : Option String :=
  c.follow (lateTextAfter task) none moves

/-! ## What is lost -/

/-- An operation was let through and has yet to replace the buffer. -/
def Passed (c : Console) (task : Nat) : Prop :=
  (exists wait, c.wait? task = some wait ∧ wait.replaces = true) ∨
    exists id, c.request? task = some id ∧ c.gate.verdict? id = some (.resolved .confirmed)

/-- Unsaved text that an operation is going to replace came late or was confirmed. -/
structure Accounted (c : Console) (task : Nat) (texts : List String) (late : Option String) :
    Prop where
  stays : forall text, late = some text ->
    c.state.editor.dirty = true ∧ c.state.editor.content = text
  passed : c.Passed task -> c.state.editor.dirty = true ->
    late = some c.state.editor.content ∨ c.state.editor.content ∈ texts

section

variable {c : Console} {task : Nat}

theorem confirmedText?_of_confirmed {m : Move} {id : RequestId}
    (release : c.release? m = some (id, .answered .confirmed))
    (waits : c.request? task = some id) :
    c.confirmedText? task m = some (c.step m).state.editor.content := by
  unfold confirmedText?
  rw [release]
  exact if_pos waits

theorem content_of_confirmedText {m : Move} {text : String}
    (h : c.confirmedText? task m = some text) : (c.step m).state.editor.content = text := by
  unfold confirmedText? at h
  split at h
  · split at h
    · exact Option.some.inj h
    · cases h
  · cases h

/-! ## Who was let through -/

theorem replaces_of_firstWait {operation : Operation} {wait : Wait}
    (first : c.firstWait? operation = some wait) (replaces : wait.replaces = true) :
    c.state.editor.dirty = false := by
  have held (next : Guarded) (asked : c.askWait? next = some wait) : False := by
    unfold askWait? at asked
    split at asked
    · cases asked
      cases replaces
    · cases asked
  have clean (next : Guarded) (guarded : c.guardedWait? next = some wait) :
      c.state.editor.dirty = false := by
    unfold guardedWait? at guarded
    cases dirty : c.state.editor.dirty with
    | false => rfl
    | true =>
        rw [dirty, if_pos rfl] at guarded
        exact (held next guarded).elim
  have saves (purpose : SavePurpose) (saveAs : Bool) :
      (c.saveWait purpose saveAs).replaces = false := by
    unfold saveWait
    split <;> rfl
  cases operation with
  | confirm => exact (held .nothing first).elim
  | create => exact clean .create first
  | openFile => exact clean .openFile first
  | save saveAs =>
      cases first
      rw [saves] at replaces
      cases replaces
  | download => exact clean .download first
  | upload =>
      cases first
      cases replaces
  | answer choice => cases choice with
    | save =>
        cases first
        rw [saves] at replaces
        cases replaces
    | discard => cases first
    | cancel => cases first
  | changeMode mode => cases mode with
    | emergencyStop => cases first
    | _ =>
        cases first
        cases replaces

theorem confirmed_of_collected {expired : Bool} {id : RequestId} {next : Guarded} {done : Unit}
    (h : c.collected? task expired = some (id, next, .ok done)) :
    c.request? task = some id ∧ c.gate.verdict? id = some (.resolved .confirmed) := by
  rcases wake_of_collected c h with ⟨waiting, message, found, _⟩
  refine ⟨request?_of_wait waiting, ?_⟩
  have outcome := c.outcome?_snd id expired
  rw [found] at outcome
  cases verdict : c.gate.verdict? id with
  | none =>
      rw [verdict] at outcome
      cases expired <;> cases outcome
  | some verdict' =>
      rw [verdict] at outcome
      cases verdict' with
      | dismissed => cases outcome
      | resolved resolution => cases resolution with
        | confirmed => rfl
        | cancelled => cases outcome

theorem replaces_of_next {wait next : Wait} {answer : wait.Reply} (call : wait.isCall = true)
    (goesOn : wait.next? answer = some next) (replaces : next.replaces = true) :
    wait.replaces = true := by
  cases wait with
  | confirmation id guarded => cases call
  | openPath => rfl
  | savePath purpose content => cases answer with
    | none => cases goesOn
    | some path =>
        cases goesOn
        cases replaces
  | _ => cases answer <;> cases goesOn

/-- An operation that waits for what it is to put into the buffer was let through before, unless
it begins just now. -/
theorem passed_of_wait (numbered : c.Numbered) {m : Move} {wait : Wait}
    (waits : (c.step m).wait? task = some wait) (replaces : wait.replaces = true)
    (held : c.startsClean task m = false) : c.Passed task := by
  rcases moved_or_waiting c numbered waits with moved | before
  · cases m with
    | start operation notice =>
        simp only [movedOn?, Option.some.injEq, Prod.mk.injEq] at moved
        rcases moved with ⟨mine, first⟩
        have clean := replaces_of_firstWait first replaces
        simp [startsClean, ← mine, clean] at held
    | reply task' wait' answer =>
        simp only [movedOn?] at moved
        split at moved
        · rename_i applies
          simp only [Option.some.injEq, Prod.mk.injEq] at moved
          rcases moved with ⟨mine, goesOn⟩
          rw [mine] at applies
          exact .inl ⟨wait', applies.2, replaces_of_next applies.1 goesOn replaces⟩
        · cases moved
    | wake task' expired =>
        simp only [movedOn?, Option.map_eq_some_iff] at moved
        rcases moved with ⟨⟨id, next, outcome⟩, collected, same⟩
        simp only [Prod.mk.injEq] at same
        rcases same with ⟨mine, goesOn⟩
        rw [mine] at collected
        cases outcome with
        | ok done => exact .inr ⟨id, confirmed_of_collected collected⟩
        | error failure => cases goesOn
    | drop task' =>
        simp only [movedOn?, Option.map_eq_some_iff] at moved
        rcases moved with ⟨wait', _, same⟩
        cases same
    | _ => cases moved
  · exact .inl ⟨wait, before, replaces⟩

theorem passed_of_confirmed (coherent : c.Coherent) {m : Move} {id : RequestId}
    (waits : (c.step m).request? task = some id)
    (confirmed : (c.step m).gate.verdict? id = some (.resolved .confirmed))
    (held : c.confirmedText? task m = none) : c.Passed task := by
  cases coherent.gateStep m with
  | quiet gate requests =>
      rw [requests] at waits
      rw [gate] at confirmed
      exact .inr ⟨id, waits, confirmed⟩
  | asked task' idle free gate requests =>
      rw [requests] at waits
      rw [gate, Gate.verdict?_accept] at confirmed
      split at waits
      · cases waits
        rw [coherent.awaited.verdict?_next] at confirmed
        cases confirmed
      · exact .inr ⟨id, waits, confirmed⟩
  | taken id' verdict way taken leaves gate requests acceptance release =>
      rw [requests] at waits
      rw [gate, Gate.verdict?_deliver] at confirmed
      cases before : c.gate.verdict? id with
      | some verdict' =>
          rw [before] at confirmed
          exact .inr ⟨id, waits, before.trans confirmed⟩
      | none =>
          rw [before, Option.none_or] at confirmed
          split at confirmed
          · rename_i mine
            cases confirmed
            have answered : way = .answered .confirmed := by
              cases way with
              | answered resolution =>
                  cases leaves
                  rfl
              | _ => cases leaves
            rw [answered, ← mine] at release
            rw [confirmedText?_of_confirmed release waits] at held
            cases held
          · cases confirmed
  | left task' id' way outcome? waits' gate requests =>
      rw [requests] at waits
      rw [gate, Gate.verdict?_forget] at confirmed
      split at waits
      · cases waits
      · split at confirmed
        · cases confirmed
        · exact .inr ⟨id, waits, confirmed⟩

theorem Passed.before (coherent : c.Coherent) {m : Move} (passed : (c.step m).Passed task)
    (held : c.letsThrough task m = false) : c.Passed task := by
  simp only [letsThrough, Bool.or_eq_false_iff, Option.isSome_eq_false_iff,
    Option.isNone_iff_eq_none] at held
  rcases passed with ⟨wait, waits, replaces⟩ | ⟨id, waits, confirmed⟩
  · exact passed_of_wait coherent.numbered waits replaces held.1
  · exact passed_of_confirmed coherent waits confirmed held.2

/-! ## Unsaved text is accounted for -/

theorem dirty_step {m : Move} (dirty : (c.step m).state.editor.dirty = true) :
    (c.effect m).change = some (.unsaved (c.step m).state.editor.content) ∨
      ((forall text, (c.effect m).change ≠ some (.unsaved text)) ∧
        c.state.editor.dirty = true ∧
        (c.step m).state.editor.content = c.state.editor.content) := by
  rw [step_editor] at dirty ⊢
  cases change : (c.effect m).change with
  | none =>
      rw [change] at dirty
      exact .inr ⟨by simp, dirty, rfl⟩
  | some change' =>
      rw [change] at dirty
      cases change' with
      | unsaved content => exact .inl rfl
      | emptied => cases dirty
      | opened path content => cases dirty
      | saved path content text =>
          simp only [Option.elim, EditorState.change, EditorState.saved] at dirty ⊢
          split at dirty
          · cases dirty
          · rename_i differs
            rw [if_neg differs]
            exact .inr ⟨by simp, dirty, rfl⟩

theorem Accounted.stays_step {texts : List String} {late : Option String}
    (h : c.Accounted task texts late) (m : Move) (text : String)
    (after : c.lateTextAfter task m late = some text) :
    (c.step m).state.editor.dirty = true ∧ (c.step m).state.editor.content = text := by
  unfold lateTextAfter at after
  split at after
  · cases after
  · rename_i held
    have dirty : (c.step m).state.editor.dirty = true := by
      cases dirty : (c.step m).state.editor.dirty with
      | true => rfl
      | false => exact absurd (.inr dirty) held
    refine ⟨dirty, ?_⟩
    rcases dirty_step dirty with brought | ⟨notBrought, _, same⟩
    · rw [brought] at after
      exact Option.some.inj after
    · split at after
      · rename_i text' brought
        exact absurd brought (notBrought text')
      · rw [same]
        exact (h.stays text after).2

theorem Accounted.passed_step {texts : List String} {late : Option String}
    (h : c.Accounted task texts late) (coherent : c.Coherent) (m : Move)
    (passed : (c.step m).Passed task) (dirty : (c.step m).state.editor.dirty = true) :
    c.lateTextAfter task m late = some (c.step m).state.editor.content ∨
      (c.step m).state.editor.content ∈ texts ++ (c.confirmedText? task m).toList := by
  cases through : c.letsThrough task m with
  | true =>
      cases confirmed : c.confirmedText? task m with
      | some text =>
          right
          simp [content_of_confirmedText confirmed]
      | none =>
          -- An operation that begins on a clean buffer leaves it clean.
          simp only [letsThrough, confirmed, Option.isSome_none, Bool.or_false] at through
          cases m with
          | start operation notice =>
              have clean : c.state.editor.dirty = false := by
                simp only [startsClean, Bool.and_eq_true, Bool.not_eq_true'] at through
                exact through.2
              rcases dirty_step dirty with brought | ⟨_, before, _⟩
              · have change := operation.effect_change c.state.editor.dirty notice
                simp only [effect] at brought
                rw [brought] at change
                simp at change
              · rw [clean] at before
                cases before
          | _ => cases through
  | false =>
      have after : c.lateTextAfter task m late =
          match (c.effect m).change with
          | some (.unsaved text) => some text
          | _ => late := by
        simp [lateTextAfter, through, dirty]
      rw [after]
      rcases dirty_step dirty with brought | ⟨notBrought, before, same⟩
      · rw [brought]
        exact .inl rfl
      · rw [same]
        rcases h.passed (passed.before coherent through) before with isLate | known
        · left
          split
          · rename_i text brought
            exact absurd brought (notBrought text)
          · exact isLate
        · exact .inr (List.mem_append_left _ known)

theorem accounted_play (settings : Settings) (hasLogDisplay : Bool) (moves : List Move)
    (task : Nat) :
    ((fresh settings hasLogDisplay).play moves).Accounted task
      ((fresh settings hasLogDisplay).confirmedTexts moves task)
      ((fresh settings hasLogDisplay).lateText? moves task) := by
  induction moves using List.reverseRecOn with
  | nil =>
      constructor
      · intro text late
        cases late
      · intro _ dirty
        cases dirty
  | append_singleton moves m ih =>
      unfold confirmedTexts lateText? at ih ⊢
      rw [play_snoc, trace_snoc, follow_snoc]
      constructor
      · exact ih.stays_step m
      · exact ih.passed_step (coherent_play settings hasLogDisplay moves) m

theorem passed_of_replaces {m : Move} (replaces : c.replaces? m = some task) :
    c.state.editor.dirty = false ∨ c.Passed task := by
  unfold replaces? at replaces
  split at replaces
  · rename_i changes
    cases m with
    | start operation notice =>
        left
        cases dirty : c.state.editor.dirty with
        | false => rfl
        | true =>
            simp only [effect, dirty, operation.effect_change_of_dirty notice] at changes
            cases changes
    | reply task' wait answer =>
        right
        simp only [effect] at changes
        simp only [movedOn?] at replaces
        split at changes
        · rename_i applies
          rw [if_pos applies] at replaces
          cases replaces
          cases wait with
          | confirmation id next => cases applies.1
          | readFile path => exact .inl ⟨_, applies.2, rfl⟩
          | download => exact .inl ⟨_, applies.2, rfl⟩
          | _ => cases answer <;> cases changes
        · cases changes
    | wake task' expired =>
        right
        simp only [effect] at changes
        simp only [movedOn?] at replaces
        cases collected : c.collected? task' expired with
        | none =>
            rw [collected] at replaces
            cases replaces
        | some entry =>
            rcases entry with ⟨id, next, outcome⟩
            rw [collected] at replaces changes
            cases replaces
            cases outcome with
            | ok done => exact .inr ⟨id, confirmed_of_collected collected⟩
            | error failure => cases changes
    | edit content => cases replaces
    | _ => cases changes
  · cases replaces

end

/-- When an operation replaces the buffer, the text that goes is saved or was confirmed if and
only if no other unsaved text than a confirmed one came into the buffer after the operation
was let through. -/
theorem replaced_text_confirmed_iff (settings : Settings) (hasLogDisplay : Bool)
    (moves : List Move) (m : Move) (task : Nat)
    (replaces : ((fresh settings hasLogDisplay).play moves).replaces? m = some task) :
    let start := fresh settings hasLogDisplay
    let editor := (start.play moves).state.editor
    (editor.dirty = false ∨ editor.content ∈ start.confirmedTexts moves task) ↔
      forall text, start.lateText? moves task = some text ->
        text ∈ start.confirmedTexts moves task := by
  intro start editor
  have accounted := accounted_play settings hasLogDisplay moves task
  constructor
  · intro saved text late
    rcases accounted.stays text late with ⟨dirty, content⟩
    rcases saved with clean | confirmed
    · have clean' : (start.play moves).state.editor.dirty = false := clean
      rw [dirty] at clean'
      cases clean'
    · rw [← content]
      exact confirmed
  · intro known
    cases dirty : editor.dirty with
    | false => exact .inl rfl
    | true =>
        right
        rcases passed_of_replaces replaces with clean | passed
        · have dirty' : (start.play moves).state.editor.dirty = true := dirty
          rw [clean] at dirty'
          cases dirty'
        · rcases accounted.passed passed dirty with late | confirmed
          · exact known _ late
          · exact confirmed

def droppedDraft : List Move :=
  [.edit "draft",
    .start .openFile (.ok ()),
    .start (.answer .discard) (.ok ()),
    .wake 1 false,
    .reply 1 .openPath (some "b.py")]

theorem replaced_text_confirmed_of_droppedDraft :
    let start := fresh {}
    let editor := (start.play droppedDraft).state.editor
    let opened := Move.reply 1 (.readFile "b.py") (.ok "other\n")
    (start.play droppedDraft).replaces? opened = some 1 ∧
      (editor.dirty = false ∨ editor.content ∈ start.confirmedTexts droppedDraft 1) := by
  intro start editor opened
  have replaces : (start.play droppedDraft).replaces? opened = some 1 := by
    decide
  have nothingLate : start.lateText? droppedDraft 1 = none := by
    decide
  refine ⟨replaces, (replaced_text_confirmed_iff {} true droppedDraft opened 1 replaces).2 ?_⟩
  intro text late
  rw [nothingLate] at late
  cases late

/-! ## Text that is lost unseen -/

def typedWhileChoosing : List Move :=
  [.start .openFile (.ok ()),
    .edit "typed",
    .reply 1 .openPath (some "b.py")]

/-- The opened file replaces the unsaved text, and nobody was asked. -/
theorem replaced_text_not_confirmed :
    let start := fresh {}
    let editor := (start.play typedWhileChoosing).state.editor
    let opened := Move.reply 1 (.readFile "b.py") (.ok "other\n")
    (start.play typedWhileChoosing).replaces? opened = some 1 ∧
      ((start.play typedWhileChoosing).step opened).state.editor =
        { path := some "b.py", content := "other\n", dirty := false } ∧
      ¬ (editor.dirty = false ∨ editor.content ∈ start.confirmedTexts typedWhileChoosing 1) := by
  decide

end Console
end RobotConsole
