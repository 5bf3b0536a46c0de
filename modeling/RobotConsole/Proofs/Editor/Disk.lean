import RobotConsole.Proofs.Console.Run

/-!
# The buffer and the files

A buffer without unsaved changes is meant to show the file whose path it has. Files are
followed beside a run: one that is written holds the text that was written, and one that
is read gives what it holds.

A save that comes back gives the buffer its path, also when the buffer is another one by
then. It is a stray save if the buffer it finds is clean and shows neither the text that
was to be saved nor the one that was. As long as no stray save comes back, every clean
buffer shows its file; the first one that does leaves a clean buffer that does not.
-/

namespace RobotConsole

/-! ## Files -/

/-- What each file holds; nothing where there is no file. -/
abbrev Disk := String -> Option String

inductive FileEvent where
  | read (path content : String)
  | wrote (path content text : String)
  deriving DecidableEq, Repr

def Disk.after (d : Disk) : Option FileEvent -> Disk
  | some (.wrote path _ text) => fun other => if other = path then some text else d other
  | _ => d

def Disk.Gives (d : Disk) : Option FileEvent -> Prop
  | some (.read path content) => d path = some content
  | _ => True

instance (d : Disk) : (event? : Option FileEvent) -> Decidable (d.Gives event?)
  | some (.read path content) => inferInstanceAs (Decidable (d path = some content))
  | some (.wrote ..) => isTrue trivial
  | none => isTrue trivial

/-- A buffer without unsaved changes that has a path shows what the file holds. -/
def EditorState.ShowsFile (e : EditorState) (d : Disk) : Prop :=
  e.dirty = false -> forall path, path ∈ e.path -> d path = some e.content

instance (e : EditorState) (d : Disk) : Decidable (e.ShowsFile d) :=
  inferInstanceAs (Decidable (_ -> _))

/-- What a save does that is not for the buffer it finds: it names a clean buffer after a file
that holds something else. -/
def EditorState.MisledBy (e : EditorState) : Option FileEvent -> Prop
  | some (.wrote _ content text) => e.dirty = false ∧ e.content ≠ content ∧ e.content ≠ text
  | _ => False

instance (e : EditorState) : (event? : Option FileEvent) -> Decidable (e.MisledBy event?)
  | some (.wrote ..) => inferInstanceAs (Decidable (_ ∧ _))
  | some (.read ..) => isFalse id
  | none => isFalse id

namespace Console

def fileEvent? (c : Console) : Move -> Option FileEvent
  | .reply task (.readFile path) (.ok content) =>
      if c.wait? task = some (.readFile path) then some (.read path content) else none
  | .reply task (.writeFile purpose path content) (.ok ()) =>
      if c.wait? task = some (.writeFile purpose path content) then
        some (.wrote path content (c.savedText content))
      else none
  | _ => none

/-! ## How calls on the files change the buffer -/

inductive BufferStep (c : Console) (m : Move) : Prop where
  | kept (change : (c.effect m).change = none) (event : c.fileEvent? m = none)
  | unsaved (content : String) (change : (c.effect m).change = some (.unsaved content))
      (event : c.fileEvent? m = none)
  | emptied (change : (c.effect m).change = some .emptied) (event : c.fileEvent? m = none)
  | opened (path content : String) (change : (c.effect m).change = some (.opened path content))
      (event : c.fileEvent? m = some (.read path content))
  | saved (path content text : String)
      (change : (c.effect m).change = some (.saved path content text))
      (event : c.fileEvent? m = some (.wrote path content text))

section

variable {c : Console}

theorem bufferStep_of_no_call {m : Move} (event : c.fileEvent? m = none)
    (change : (c.effect m).change = none ∨ (c.effect m).change = some .emptied ∨
      exists content, (c.effect m).change = some (.unsaved content)) : c.BufferStep m := by
  rcases change with kept | emptied | ⟨content, unsaved⟩
  · exact .kept kept event
  · exact .emptied emptied event
  · exact .unsaved content unsaved event

theorem bufferStep_reply (task : Nat) (wait : Wait) (answer : wait.Reply) :
    c.BufferStep (.reply task wait answer) := by
  by_cases waiting : wait.isCall ∧ c.wait? task = some wait
  · have effect : c.effect (.reply task wait answer) = wait.effect c.settings.editor answer := by
      simp only [Console.effect]
      rw [if_pos waiting]
    cases wait with
    | confirmation id next => cases waiting.1
    | readFile path => cases answer with
      | ok content =>
          refine .opened path content ?_ ?_
          · rw [effect]
            rfl
          · simp only [fileEvent?]
            rw [if_pos waiting.2]
      | error failure => exact .kept (by rw [effect]; rfl) rfl
    | writeFile purpose path content => cases answer with
      | ok done =>
          refine .saved path content (c.savedText content) ?_ ?_
          · rw [effect]
            rfl
          · simp only [fileEvent?]
            rw [if_pos waiting.2]
      | error failure => exact .kept (by rw [effect]; rfl) rfl
    | download => cases answer with
      | ok content => exact .unsaved content (by rw [effect]; rfl) rfl
      | error failure => exact .kept (by rw [effect]; rfl) rfl
    | openPath => exact .kept (by rw [effect]; cases answer <;> rfl) rfl
    | upload content => exact .kept (by rw [effect]; cases answer <;> rfl) rfl
    | savePath purpose content => exact .kept (by rw [effect]; cases answer <;> rfl) rfl
    | invoke mode => exact .kept (by rw [effect]; cases answer <;> rfl) rfl
  · have effect : c.effect (.reply task wait answer) = {} := by
      simp only [Console.effect]
      rw [if_neg waiting]
    have event : c.fileEvent? (.reply task wait answer) = none := by
      cases wait with
      | readFile path => cases answer with
        | ok content =>
            have elsewhere : c.wait? task ≠ some (.readFile path) :=
              fun waits => waiting ⟨rfl, waits⟩
            simp only [fileEvent?]
            rw [if_neg elsewhere]
        | error failure => rfl
      | writeFile purpose path content => cases answer with
        | ok done =>
            have elsewhere : c.wait? task ≠ some (.writeFile purpose path content) :=
              fun waits => waiting ⟨rfl, waits⟩
            simp only [fileEvent?]
            rw [if_neg elsewhere]
        | error failure => rfl
      | _ => rfl
    exact .kept (by rw [effect]) event

theorem bufferStep (m : Move) : c.BufferStep m := by
  cases m with
  | start operation notice =>
      apply bufferStep_of_no_call rfl
      rcases operation.effect_change c.state.editor.dirty notice with kept | emptied
      · exact .inl kept
      · exact .inr (.inl emptied)
  | reply task wait answer => exact bufferStep_reply task wait answer
  | wake task expired =>
      apply bufferStep_of_no_call rfl
      simp only [effect]
      cases c.collected? task expired with
      | none => exact .inl rfl
      | some collected =>
          rcases collected with ⟨id, next, outcome⟩
          cases outcome with
          | ok done =>
              rcases next.effect_change with kept | emptied
              · exact .inl kept
              · exact .inr (.inl emptied)
          | error failure => exact .inl rfl
  | edit content => exact .unsaved content rfl rfl
  | _ => exact .kept rfl rfl

/-! ## Clean buffers show their files -/

/-- One move keeps it so that a clean buffer shows its file, unless it ends a stray save. -/
theorem showsFile_step {d : Disk} (shows : c.state.editor.ShowsFile d) {m : Move}
    (gives : d.Gives (c.fileEvent? m)) :
    (c.step m).state.editor.ShowsFile (d.after (c.fileEvent? m)) ↔
      ¬ c.state.editor.MisledBy (c.fileEvent? m) := by
  rw [step_editor]
  cases bufferStep (c := c) m with
  | kept change event =>
      rw [change, event]
      exact iff_of_true shows id
  | unsaved content change event =>
      rw [change, event]
      refine iff_of_true ?_ id
      intro clean
      cases clean
  | emptied change event =>
      rw [change, event]
      refine iff_of_true ?_ id
      intro clean path named
      cases named
  | opened path content change event =>
      rw [event] at gives
      rw [change, event]
      refine iff_of_true ?_ id
      intro clean path' named
      cases named
      exact gives
  | saved path content text change event =>
      rw [change, event]
      have holds : d.after (some (.wrote path content text)) path = some text := by
        simp [Disk.after]
      simp only [Option.elim, EditorState.change, EditorState.saved]
      by_cases same : c.state.editor.content = content
      · rw [if_pos same]
        refine iff_of_true ?_ ?_
        · intro clean path' named
          cases named
          exact holds
        · rintro ⟨_, differs, _⟩
          exact differs same
      · rw [if_neg same]
        -- The buffer is a different one by now; all it takes from the save is the path.
        constructor
        · rintro shows' ⟨clean, _, differs⟩
          have shown := shows' clean path rfl
          rw [holds] at shown
          exact differs (Option.some.inj shown).symm
        · intro fits clean path' named
          cases named
          have shown : c.state.editor.content = text := by
            by_contra differs
            exact fits ⟨clean, same, differs⟩
          rw [holds]
          exact congrArg some shown.symm

end

/-! ## Runs -/

/-- Every read of a run gives what its file holds when it comes back. -/
def ReadsGive (c : Console) (d : Disk) : List Move -> Prop
  | [] => True
  | m :: rest =>
      d.Gives (c.fileEvent? m) ∧ (c.step m).ReadsGive (d.after (c.fileEvent? m)) rest

/-- At every point of a run a clean buffer shows its file. -/
def ShowsFiles (c : Console) (d : Disk) : List Move -> Prop
  | [] => c.state.editor.ShowsFile d
  | m :: rest =>
      c.state.editor.ShowsFile d ∧ (c.step m).ShowsFiles (d.after (c.fileEvent? m)) rest

/-- No save of a run comes back to a clean buffer that is another one by then. -/
def NoStraySave (c : Console) : List Move -> Prop
  | [] => True
  | m :: rest => ¬ c.state.editor.MisledBy (c.fileEvent? m) ∧ (c.step m).NoStraySave rest

instance decidableReadsGive (c : Console) (d : Disk) :
    (moves : List Move) -> Decidable (c.ReadsGive d moves)
  | [] => isTrue trivial
  | m :: rest =>
      have := decidableReadsGive (c.step m) (d.after (c.fileEvent? m)) rest
      inferInstanceAs (Decidable (_ ∧ _))

instance decidableShowsFiles (c : Console) (d : Disk) :
    (moves : List Move) -> Decidable (c.ShowsFiles d moves)
  | [] => inferInstanceAs (Decidable (c.state.editor.ShowsFile d))
  | m :: rest =>
      have := decidableShowsFiles (c.step m) (d.after (c.fileEvent? m)) rest
      inferInstanceAs (Decidable (_ ∧ _))

instance decidableNoStraySave (c : Console) :
    (moves : List Move) -> Decidable (c.NoStraySave moves)
  | [] => isTrue trivial
  | m :: rest =>
      have := decidableNoStraySave (c.step m) rest
      inferInstanceAs (Decidable (_ ∧ _))

theorem showsFiles_iff {c : Console} {d : Disk} (shows : c.state.editor.ShowsFile d)
    {moves : List Move} (gives : c.ReadsGive d moves) :
    c.ShowsFiles d moves ↔ c.NoStraySave moves := by
  induction moves generalizing c d with
  | nil => exact iff_of_true shows trivial
  | cons m rest ih =>
      rcases gives with ⟨given, later⟩
      have step := showsFile_step shows given
      constructor
      · rintro ⟨_, after⟩
        have shows' : (c.step m).state.editor.ShowsFile (d.after (c.fileEvent? m)) := by
          cases rest with
          | nil => exact after
          | cons m' rest' => exact after.1
        exact ⟨step.1 shows', (ih shows' later).1 after⟩
      · rintro ⟨fits, after⟩
        have shows' := step.2 fits
        exact ⟨shows, (ih shows' later).2 after⟩

/-- A run with files that give what they hold keeps every clean buffer in step with its file
if and only if no stray save comes back. -/
theorem clean_buffer_shows_file_iff (settings : Settings) (hasLogDisplay : Bool) (d : Disk)
    (moves : List Move) (gives : (fresh settings hasLogDisplay).ReadsGive d moves) :
    (fresh settings hasLogDisplay).ShowsFiles d moves ↔
      (fresh settings hasLogDisplay).NoStraySave moves := by
  have unnamed : (fresh settings hasLogDisplay).state.editor.ShowsFile d := by
    intro _ path named
    cases named
  exact showsFiles_iff unnamed gives

/-! ## A stray save -/

def oneFile : Disk := fun path => if path = "b.py" then some "other\n" else none

/-- While a save is on its way to one file, the user drops a later edit and opens another file. -/
def lateSave : List Move :=
  [.edit "first",
    .start (.save false) (.ok ()),
    .reply 1 (.savePath .request "first") (some "a.py"),
    .edit "second",
    .start .openFile (.ok ()),
    .start (.answer .discard) (.ok ()),
    .wake 2 false,
    .reply 2 .openPath (some "b.py"),
    .reply 2 (.readFile "b.py") (.ok "other\n"),
    .reply 1 (.writeFile .request "a.py" "first") (.ok ())]

/-- The clean buffer ends up with the path of the file that was saved and the text of the one
that was opened. -/
theorem clean_buffer_shows_other_file :
    (fresh {}).ReadsGive oneFile lateSave ∧
      ((fresh {}).play lateSave).state.editor =
        { path := some "a.py", content := "other\n", dirty := false } ∧
      ¬ (fresh {}).ShowsFiles oneFile lateSave := by
  decide

/-- Until the late save comes back, the buffer shows its file. -/
theorem clean_buffer_shows_file_before_late_save :
    (fresh {}).ReadsGive oneFile lateSave.dropLast ∧
      (fresh {}).ShowsFiles oneFile lateSave.dropLast := by
  have gives : (fresh {}).ReadsGive oneFile lateSave.dropLast := by
    decide
  have fits : (fresh {}).NoStraySave lateSave.dropLast := by
    decide
  exact ⟨gives, (clean_buffer_shows_file_iff {} true oneFile lateSave.dropLast gives).2 fits⟩

end Console
end RobotConsole
