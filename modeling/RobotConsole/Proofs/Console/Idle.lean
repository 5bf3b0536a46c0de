import RobotConsole.Proofs.Console.Deeds
import RobotConsole.Proofs.Gate.Dialog

/-!
# Idle moves

Most moves concern no operation: what the transport and the clock bring, and the wakes that find
nothing. A console that made only such moves has called for nothing and ended nothing, and its
gate, its buffer and what its operations wait for are as they were. So a run of operations that
are not disturbed may be followed from one of their moves to the next.
-/

namespace RobotConsole
namespace Console

/-- What a console has done since an earlier one, and the buffer that it has. -/
structure Brought (c c' : Console) (calls : List Call) (results : List (Nat × OperationResult))
    (editor : EditorState) : Prop where
  calls : c'.calls = c.calls ++ calls
  results : c'.results = c.results ++ results
  editor : c'.state.editor = editor

/-- A move that sets no operation going and leaves the gate and the buffer alone. -/
structure Idles (c : Console) (m : Move) : Prop where
  moved : c.movedOn? m = none
  gate : (c.step m).gate = c.gate
  editor : (c.step m).state.editor = c.state.editor

def Idle (c : Console) : List Move -> Prop
  | [] => True
  | m :: rest => c.Idles m ∧ (c.step m).Idle rest

/-- A move leads to a console, if nothing but idle moves comes after it. -/
def Leads (c : Console) (m : Move) (c' : Console) : Prop :=
  exists rest, (c.step m).Idle rest ∧ c' = (c.step m).play rest

/-- A console that differs from an earlier one in nothing that concerns operations. -/
structure Rests (c c' : Console) : Prop where
  brought : c.Brought c' [] [] c.state.editor
  given : c'.settings = c.settings ∧ c'.hasLogDisplay = c.hasLogDisplay
  gate : c'.gate = c.gate
  waits : forall task, c'.wait? task = c.wait? task
  started : c'.started = c.started
  numbered : c'.Numbered

section

variable {c c' c'' : Console} {m : Move}

theorem Brought.then {calls more : List Call} {results further : List (Nat × OperationResult)}
    {editor editor' : EditorState} (h : c.Brought c' calls results editor)
    (h' : c'.Brought c'' more further editor') :
    c.Brought c'' (calls ++ more) (results ++ further) editor' := by
  constructor
  · rw [h'.calls, h.calls, List.append_assoc]
  · rw [h'.results, h.results, List.append_assoc]
  · exact h'.editor

theorem Brought.rests {calls : List Call} {results : List (Nat × OperationResult)}
    {editor : EditorState} (h : c.Brought c' calls results editor) (rests : c'.Rests c'') :
    c.Brought c'' calls results editor := by
  have brought := h.then rests.brought
  rwa [List.append_nil, List.append_nil, h.editor] at brought

theorem brought_of_deed {task : Nat} {deed : Deed} (found : c.deed? m = some (task, deed)) :
    c.Brought (c.step m) deed.calls (deed.result?.map (task, ·)).toList
      (deed.effect.change.elim c.state.editor c.state.editor.change) := by
  obtain ⟨calls, results⟩ := step_writes c m
  rw [found] at calls results
  refine ⟨calls, results, ?_⟩
  rw [step_editor, effect_of_deed found]

theorem Idles.rests (h : c.Idles m) (numbered : c.Numbered) : c.Rests (c.step m) := by
  have nobody : c.deed? m = none := by
    cases c.turn m with
    | begins operation notice starts deed moved => simp [h.moved] at moved
    | goesOn task wait answer waits resumed deed moved => simp [h.moved] at moved
    | dropped task wait drops waits deed moved => exact deed
    | none deed moved => exact deed
  obtain ⟨calls, results⟩ := step_writes c m
  rw [nobody] at calls results
  refine ⟨⟨calls, results, h.editor⟩, step_given c m, h.gate, ?_, ?_, numbered.step m⟩
  · intro task
    rw [wait?_step c numbered, h.moved]
  · rw [step_started]
    cases m with
    | start operation notice => cases h.moved
    | _ => rfl

theorem Rests.trans (h : c.Rests c') (h' : c'.Rests c'') : c.Rests c'' :=
  ⟨h.brought.rests h', ⟨h'.given.1.trans h.given.1, h'.given.2.trans h.given.2⟩,
    h'.gate.trans h.gate, fun task => (h'.waits task).trans (h.waits task),
    h'.started.trans h.started, h'.numbered⟩

theorem Idle.rests {moves : List Move} (h : c.Idle moves) (numbered : c.Numbered) :
    c.Rests (c.play moves) := by
  induction moves generalizing c with
  | nil =>
      exact ⟨⟨(List.append_nil _).symm, (List.append_nil _).symm, rfl⟩, ⟨rfl, rfl⟩, rfl,
        fun _ => rfl, rfl, numbered⟩
  | cons m rest ih => exact (h.1.rests numbered).trans (ih h.2 (numbered.step m))

theorem Leads.rests (h : c.Leads m c') (numbered : c.Numbered) : (c.step m).Rests c' := by
  obtain ⟨rest, idle, rfl⟩ := h
  exact idle.rests (numbered.step m)

theorem idles_feed (f : Feed) : c.Idles f.move := by
  constructor
  · cases f <;> rfl
  · rw [step_gate]
    cases f with
    | event now event => cases event <;> simp [Feed.move, outcomeOf, apply, applyBatch, applyLog]
    | tick now => simp [Feed.move, outcomeOf, tick]
  · rw [step_editor]
    cases f <;> rfl

theorem idles_wake {task : Nat} {expired : Bool} (nothing : c.collected? task expired = none) :
    c.Idles (.wake task expired) := by
  have same : c.step (.wake task expired) = c := wake_of_not_collected c nothing
  constructor
  · simp [movedOn?, nothing]
  · rw [same]
  · rw [same]

end

end Console
end RobotConsole
