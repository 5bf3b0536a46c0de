import RobotConsole.Proofs.Editor.DialogAnswer
import RobotConsole.Proofs.Console.Deeds

/-!
# Typing during a save

A save takes the text of the buffer when it is called, and comes back to the buffer when that text
is written. Here the user types in between, and no other operation runs: what is written is the
text of the call, and what was typed stays in the buffer.
-/

namespace RobotConsole

def Move.typed? : Move -> Option String
  | .edit content => some content
  | _ => none

def typedIn (moves : List Move) : List String :=
  moves.filterMap Move.typed?

def Call.isWrite : Call -> Bool
  | .write .. => true
  | _ => false

namespace Console

def ranBy (c : Console) (moves : List Move) : List Nat :=
  c.trace runs? moves

/-! ## The buffer while an operation runs alone -/

section

variable {c : Console} {task : Nat}

theorem change_of_runs?_none {m : Move} (none : c.runs? m = none) :
    (c.effect m).change = m.typed?.map .unsaved := by
  unfold runs? at none
  rw [Option.map_eq_none_iff] at none
  cases m with
  | start operation notice => cases none
  | reply task wait answer =>
      simp only [deed?] at none
      split at none
      · cases none
      · simp only [effect]
        rw [if_neg ‹_›]
        rfl
  | wake task expired =>
      have nothing := Option.map_eq_none_iff.1 none
      simp only [effect, nothing]
      rfl
  | _ => rfl

theorem bufferChanges_of_alone {moves : List Move}
    (alone : forall other, other ∈ c.ranBy moves -> other = task)
    (quiet : forall deed, deed ∈ c.deeds moves task -> deed.effect.change = none) :
    c.bufferChanges moves = (typedIn moves).map .unsaved := by
  induction moves generalizing c with
  | nil => rfl
  | cons m rest ih =>
      unfold ranBy at alone
      rw [trace, List.forall_mem_append] at alone
      rw [deeds_cons, List.forall_mem_append] at quiet
      have later := ih alone.2 quiet.2
      unfold typedIn at later ⊢
      rw [bufferChanges_cons, later, List.filterMap_cons]
      cases found : c.deed? m with
      | none =>
          rw [change_of_runs?_none (by rw [runs?, found]; rfl)]
          cases m.typed? <;> rfl
      | some entry =>
          obtain ⟨mover, deed⟩ := entry
          have mine : mover = task := alone.1 mover (by simp [runs?, found])
          have unchanged : deed.effect.change = none := quiet.1 deed (by simp [found, ofTask, mine])
          have nothingTyped : m.typed? = none := by
            cases m with
            | edit content => cases found
            | _ => rfl
          rw [effect_of_deed found, unchanged, nothingTyped]
          rfl

theorem editor_play_edits (c : Console) (texts : List String) :
    (c.play (texts.map .edit)).state.editor =
      (texts.map BufferChange.unsaved).foldl EditorState.change c.state.editor := by
  rw [editor_play]
  congr 1
  induction texts generalizing c with
  | nil => rfl
  | cons content rest ih => exact congrArg (_ :: ·) (ih (c.step (.edit content)))

end

/-! ## The parts of a save -/

section

variable (c : Console) (saveAs : Bool)

def knownPath? : Option String :=
  if saveAs then none else c.state.editor.path

def textToWrite : String :=
  c.savedText c.state.editor.content

/-- What a save waits for, with what it has written. -/
inductive SaveWaits : List Call -> Wait -> Prop where
  | forPath (unknown : c.knownPath? saveAs = none) :
      SaveWaits [] (.savePath .request c.state.editor.content)
  | forFile (path : String)
      (chosen : forall known, c.knownPath? saveAs = some known -> path = known) :
      SaveWaits [.write path c.textToWrite] (.writeFile .request path c.state.editor.content)

theorem SaveWaits.writes {c : Console} {saveAs : Bool} {writes : List Call} {wait : Wait}
    (waits : SaveWaits c saveAs writes wait) :
    writes = [] ∨ exists path, writes = [.write path c.textToWrite] := by
  cases waits with
  | forPath => exact .inl rfl
  | forFile path => exact .inr ⟨path, rfl⟩

/-- What a save has done by the time when it waits for something or is over. -/
structure SaveProgress (deeds : List Deed) (wait? : Option Wait) : Prop where
  writes : let writes := (deeds.flatMap Deed.calls).filter Call.isWrite
    writes = [] ∨ exists path, writes = [.write path c.textToWrite]
  quiet : forall deed, deed ∈ deeds -> deed.result? = none -> deed.effect.change = none
  goingOn : forall wait, wait? = some wait ->
    SaveWaits c saveAs ((deeds.flatMap Deed.calls).filter Call.isWrite) wait ∧
      forall deed, deed ∈ deeds -> deed.result? = none

end

section

variable {c : Console} {notice : Except Failure Unit} {saveAs : Bool} {deeds : List Deed}
  {wait? : Option Wait}

theorem filter_isWrite_report (what : String) (failure : Failure) :
    (report what failure).filter Call.isWrite = [] := by
  apply List.filter_eq_nil_iff.2
  intro call mem
  obtain ⟨message, rfl⟩ := error_of_mem_report mem
  simp [Call.isWrite]

/-- A save that ends well has written the file for which it waits, and brings the text back to the
buffer; one that fails leaves the buffer alone. -/
theorem SaveWaits.ends {writes : List Call} {wait : Wait}
    (waits : SaveWaits c saveAs writes wait) (answer : wait.Reply) {result : OperationResult}
    (finished : wait.result? answer = some result) :
    match result with
    | .ok path? => exists path, path? = some path ∧
        writes ++ (c.nextCalls wait answer).filter Call.isWrite = [.write path c.textToWrite] ∧
        (forall known, c.knownPath? saveAs = some known -> path = known) ∧
        (wait.effect c.settings.editor answer).change =
          some (.saved path c.state.editor.content c.textToWrite)
    | .error _ => (wait.effect c.settings.editor answer).change = none := by
  cases waits with
  | forPath unknown => cases answer with
    | none =>
        cases finished
        rfl
    | some path => cases finished
  | forFile path chosen => cases answer with
    | ok =>
        cases finished
        exact ⟨path, rfl, rfl, chosen, rfl⟩
    | error failure =>
        cases finished
        rfl

theorem saveProgress_begun :
    c.SaveProgress saveAs [c.firstDeed notice (.save saveAs)] (c.firstWait? (.save saveAs)) := by
  have begins :
      ([c.firstDeed notice (.save saveAs)].flatMap Deed.calls) = [c.saveCall saveAs] := rfl
  have waits : c.SaveWaits saveAs ([c.saveCall saveAs].filter Call.isWrite)
      (c.saveWait .request saveAs) := by
    unfold saveCall saveWait
    cases known : c.knownPath? saveAs with
    | none =>
        unfold knownPath? at known
        rw [known]
        exact .forPath known
    | some path =>
        have only (other : String) (same : c.knownPath? saveAs = some other) : path = other :=
          Option.some.inj (known.symm.trans same)
        unfold knownPath? at known
        rw [known]
        exact .forFile path only
  refine ⟨?_, ?_, ?_⟩
  · rw [begins]
    exact waits.writes
  · intro deed mem _
    rw [List.mem_singleton.1 mem]
    rfl
  · rintro wait ⟨⟩
    rw [begins]
    refine ⟨waits, ?_⟩
    intro deed mem
    rw [List.mem_singleton.1 mem]
    rfl

theorem SaveProgress.wentOn {wait : Wait} (progress : c.SaveProgress saveAs deeds (some wait))
    (answer : wait.Reply) :
    c.SaveProgress saveAs (deeds ++ [c.nextDeed wait answer]) (wait.next? answer) := by
  obtain ⟨waits, unfinished⟩ := progress.goingOn wait rfl
  have quiet (unchanged : (c.nextDeed wait answer).result? = none ->
      (c.nextDeed wait answer).effect.change = none) (deed : Deed)
      (mem : deed ∈ deeds ++ [c.nextDeed wait answer]) (unfinished : deed.result? = none) :
      deed.effect.change = none := by
    rcases List.mem_append.1 mem with earlier | last
    · exact progress.quiet deed earlier unfinished
    · cases List.mem_singleton.1 last
      exact unchanged unfinished
  generalize written : (deeds.flatMap Deed.calls).filter Call.isWrite = writes at waits
  have later : ((deeds ++ [c.nextDeed wait answer]).flatMap Deed.calls).filter Call.isWrite =
      writes ++ (c.nextDeed wait answer).calls.filter Call.isWrite := by
    rw [List.flatMap_append, List.filter_append, written, List.flatMap_singleton]
  cases waits with
  | forPath unknown => cases answer with
    | none => exact ⟨.inl later, quiet (fun _ => rfl), nofun⟩
    | some path =>
        refine ⟨.inr ⟨path, later⟩, quiet fun _ => rfl, ?_⟩
        rintro _ ⟨⟩
        rw [later]
        refine ⟨.forFile path fun known same => ?_, ?_⟩
        · rw [unknown] at same
          cases same
        · intro deed mem
          rcases List.mem_append.1 mem with earlier | last
          · exact unfinished deed earlier
          · rw [List.mem_singleton.1 last]
            rfl
  | forFile path chosen => cases answer with
    | ok => exact ⟨.inr ⟨path, later⟩, quiet nofun, nofun⟩
    | error failure =>
        refine ⟨.inr ⟨path, ?_⟩, quiet fun _ => rfl, nofun⟩
        rw [later]
        exact congrArg (_ :: ·) (filter_isWrite_report "Save" failure)

theorem Story.saveProgress (story : c.Story notice (.save saveAs) deeds wait?) :
    c.SaveProgress saveAs deeds wait? := by
  induction story with
  | begun => exact saveProgress_begun
  | wentOn before answer ih => exact ih.wentOn answer
  | dropped before ih => exact ⟨ih.writes, ih.quiet, nofun⟩

end

/-! ## The end of a save -/

theorem resumed_of_resultsBy {c : Console} {task : Nat} (numbered : c.Numbered)
    (known : task ≤ c.started) {m : Move} {result : OperationResult}
    (ends : c.resultsBy [m] task = [result]) :
    exists wait answer, c.wait? task = some wait ∧
      c.deed? m = some (task, c.nextDeed wait answer) ∧ wait.result? answer = some result := by
  have deeds : c.deeds [m] task = ofTask task (c.deed? m).toList := by
    simp [Console.deeds, trace]
  rw [resultsBy_eq, deeds] at ends
  cases waits : c.wait? task with
  | none =>
      rw [(stays_over numbered known waits m).1] at ends
      cases ends
  | some wait => cases turnOf numbered known waits m with
    | goesOn answer resumed deed after =>
        rw [deed] at ends
        refine ⟨wait, answer, rfl, deed, ?_⟩
        cases finished : wait.result? answer <;> simp [ofTask, nextDeed, finished] at ends
        exact congrArg some ends
    | dropped drops deed after =>
        rw [deed] at ends
        cases ends
    | waitsOn deed after =>
        rw [deed] at ends
        cases ends

theorem saved_typed (e : EditorState) (typed : List String) (path text : String) :
    ((typed.map BufferChange.unsaved).foldl EditorState.change e).saved path e.content text =
      if typed.getLast?.getD e.content = e.content then
        { path := some path, content := text, dirty := false }
      else { path := some path, content := typed.getLast?.getD e.content, dirty := true } := by
  have typing : forall change, change ∈ typed.map BufferChange.unsaved ->
      exists text, change = .unsaved text := by
    intro change mem
    obtain ⟨text, -, rfl⟩ := List.mem_map.1 mem
    exact ⟨text, rfl⟩
  rw [foldl_unsaved e typing, List.getLast?_map]
  unfold EditorState.saved
  cases typed.getLast? with
  | none => simp
  | some last => rfl

/-- Whatever the user types during a save, as long as no other operation runs: the text that is
written is that of the call, and until the save ends the buffer is as the typing alone leaves it.
A save that fails leaves it so. One that succeeds gives the buffer its path, and leaves it clean
with the text that was written if the text of the call is there, and else with what was typed last,
as unsaved changes. -/
theorem save_keeps_typing (settings : Settings) (hasLogDisplay : Bool) (before during : List Move)
    (saveAs : Bool) (notice : Except Failure Unit) (m : Move)
    (alone : let c := (fresh settings hasLogDisplay).play before
      forall other, other ∈ c.ranBy (.start (.save saveAs) notice :: during ++ [m]) ->
        other = c.started + 1) :
    let c := (fresh settings hasLogDisplay).play before
    let run := Move.start (.save saveAs) notice :: during
    let content := c.state.editor.content
    let text := Editor.normalize settings.editor content
    let last := (typedIn during).getLast?.getD content
    let typedOnly := (c.play ((typedIn during).map .edit)).state.editor
    let after := ((c.play run).step m).state.editor
    let writes := (c.callsBy (run ++ [m]) (c.started + 1)).filter Call.isWrite
    (writes = [] ∨ exists path, writes = [.write path text]) ∧
    (c.resultsBy run (c.started + 1) = [] -> (c.play run).state.editor = typedOnly) ∧
    forall result, (c.play run).resultsBy [m] (c.started + 1) = [result] ->
      match result with
      | .ok path? => exists path, path? = some path ∧ writes = [.write path text] ∧
          (forall known, c.knownPath? saveAs = some known -> path = known) ∧
          after = if last = content then { path := some path, content := text, dirty := false }
            else { path := some path, content := last, dirty := true }
      | .error _ => after = typedOnly := by
  intro c run content text last typedOnly after writes
  have coherent : c.Coherent := coherent_play settings hasLogDisplay before
  have numbered := coherent.numbered
  have given : c.settings = settings := play_settings _ before
  have written : c.textToWrite = text := by
    unfold textToWrite savedText
    rw [given]
  have story := story_play numbered (.save saveAs) notice during
  have progress := story.saveProgress
  have atEnd : c.SaveProgress saveAs (c.deeds (run ++ [m]) (c.started + 1)) _ :=
    (story_play numbered (.save saveAs) notice (during ++ [m])).saveProgress
  replace alone : forall other, other ∈ c.trace runs? (run ++ [m]) -> other = c.started + 1 :=
    alone
  rw [trace_snoc, List.forall_mem_append] at alone
  have typing
      (unfinished : forall deed, deed ∈ c.deeds run (c.started + 1) -> deed.result? = none) :
      (c.play run).state.editor = typedOnly := by
    have changes := bufferChanges_of_alone alone.1 fun deed mem =>
      progress.quiet deed mem (unfinished deed mem)
    have typed : typedIn run = typedIn during := rfl
    rw [editor_play, changes, typed]
    exact (editor_play_edits c _).symm
  refine ⟨?_, ?_, ?_⟩
  · have writes := atEnd.writes
    rw [← callsBy_eq, written] at writes
    exact writes
  · intro unfinished
    rw [resultsBy_eq, List.filterMap_eq_nil_iff] at unfinished
    exact typing unfinished
  · intro result ends
    obtain ⟨wait, answer, waits, deed, finished⟩ := resumed_of_resultsBy (numbered.play run)
      (known_play c (.save saveAs) notice during) ends
    obtain ⟨stage, unfinished⟩ := progress.goingOn wait waits
    have sameDeed := nextDeed_congr (play_settings c run) (play_hasLogDisplay c run) wait answer
    rw [sameDeed] at deed
    have editor : after = (wait.effect c.settings.editor answer).change.elim typedOnly
        typedOnly.change := by
      rw [← typing unfinished, ← show _ = wait.effect c.settings.editor answer from
        effect_of_deed deed]
      exact step_editor _ m
    have calls : writes =
        (((c.deeds run (c.started + 1)).flatMap Deed.calls).filter Call.isWrite) ++
          (c.nextCalls wait answer).filter Call.isWrite := by
      show (c.callsBy (run ++ [m]) _).filter Call.isWrite = _
      rw [callsBy_eq, deeds_snoc, deed, List.flatMap_append, List.filter_append]
      simp [ofTask, nextDeed]
    have ends := stage.ends answer finished
    cases result with
    | ok path? =>
        obtain ⟨path, same, wrote, chosen, change⟩ := ends
        refine ⟨path, same, ?_, chosen, ?_⟩
        · rw [calls, ← written]
          exact wrote
        · have only : typedOnly = _ := editor_play_edits c (typedIn during)
          rw [editor, change, ← written, only]
          exact saved_typed c.state.editor (typedIn during) path _
    | error failure =>
        rw [editor, ends]
        rfl

def typedAround : List Move :=
  [.edit "draft, changed",
    .reply 1 (.savePath .request "draft") (some "a.py"),
    .edit "draft and more"]

theorem save_keeps_typing_around_path :
    let c := (fresh {}).play [.edit "draft"]
    let run := Move.start (.save false) (.ok ()) :: typedAround
    let written := Move.reply 1 (.writeFile .request "a.py" "draft") (.ok ())
    (c.play run).resultsBy [written] 1 = [.ok (some "a.py")] ∧
      (c.callsBy (run ++ [written]) 1).filter Call.isWrite = [.write "a.py" "draft\n"] ∧
      ((c.play run).step written).state.editor =
        { path := some "a.py", content := "draft and more", dirty := true } := by
  intro c run written
  have ends : (c.play run).resultsBy [written] 1 = [.ok (some "a.py")] := by
    decide
  have kept := (save_keeps_typing {} true [.edit "draft"] typedAround false (.ok ()) written
    (by decide)).2.2 _ ends
  obtain ⟨path, same, writes, -, after⟩ := kept
  cases same
  exact ⟨ends, writes, after⟩

end Console
end RobotConsole
