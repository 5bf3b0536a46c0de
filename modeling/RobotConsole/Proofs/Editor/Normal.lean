import Mathlib.Data.List.DropRight
import RobotConsole.Proofs.Editor.Saving
import RobotConsole.Proofs.Text.Lines

/-!
# The text of a save

What saving makes of a text, line by line: a reference that says which characters go and which stay,
without saying how they are found. A text that is saved again stays as it is.
-/

namespace RobotConsole
namespace Editor

/-! ## The reference -/

/-- The lines between the line feeds; there is one more than there are line feeds. -/
structure HasLines (cs : List Char) (lines : List (List Char)) : Prop where
  some : lines ≠ []
  plain : forall line, line ∈ lines -> '\n' ∉ line
  joined : cs = ['\n'].intercalate lines

def Bare (line : List Char) : Prop :=
  forall c, line.getLast? = some c -> c ≠ ' ' ∧ c ≠ '\t'

/-- What is kept of a line is all but the whole run of spaces and tabs at its end. -/
structure Strips (line kept : List Char) : Prop where
  rest : exists run, line = kept ++ run ∧ forall c, c ∈ run -> c = ' ' ∨ c = '\t'
  bare : Bare kept

def StripsLines (settings : EditorSettings) (before after : List Char) : Prop :=
  if settings.stripTrailingWhitespace then
    exists lines kept, HasLines before lines ∧ HasLines after kept ∧ List.Forall₂ Strips lines kept
  else after = before

/-- What saving makes of a text: what is stripped, with a line feed at its end if one is wanted
and the text is neither empty nor ends in one. -/
def Normalizes (settings : EditorSettings) (content result : List Char) : Prop :=
  exists text, StripsLines settings content text ∧ result =
    if settings.ensureTrailingNewline ∧ text ≠ [] ∧ text.getLast? ≠ some '\n' then text ++ ['\n']
    else text

/-- A text with which saving has nothing to do. -/
structure Settled (settings : EditorSettings) (cs : List Char) : Prop where
  bare : settings.stripTrailingWhitespace -> forall lines, HasLines cs lines ->
    forall line, line ∈ lines -> Bare line
  closed : settings.ensureTrailingNewline -> cs = [] ∨ cs.getLast? = some '\n'

/-! ## Lines -/

theorem hasLines_iff {cs : List Char} {lines : List (List Char)} :
    HasLines cs lines ↔ lines = cs.splitOn '\n' := by
  constructor
  · intro has
    rw [has.joined]
    exact (List.splitOn_intercalate '\n' has.plain has.some).symm
  · rintro rfl
    exact
      { some := List.splitOn_ne_nil '\n' cs
        plain := fun _ mem => Text.not_mem_of_mem_splitOn '\n' mem
        joined := (List.intercalate_splitOn '\n').symm }

theorem isTrailing_iff {c : Char} : isTrailing c ↔ c = ' ' ∨ c = '\t' := by
  simp [isTrailing]

theorem stripLine_eq_rdropWhile (line : List Char) :
    stripLine line = line.rdropWhile isTrailing := rfl

theorem stripLine_eq_self_iff {line : List Char} : stripLine line = line ↔ Bare line := by
  rw [stripLine_eq_rdropWhile, List.rdropWhile_eq_self_iff]
  unfold Bare
  constructor
  · intro last c ends
    have some : line ≠ [] := by
      rintro rfl
      cases ends
    rw [List.getLast?_eq_some_getLast some] at ends
    have stays := last some
    rw [Option.some.inj ends, isTrailing_iff] at stays
    exact not_or.1 stays
  · intro bare some trailing
    rw [isTrailing_iff] at trailing
    have other := bare _ (List.getLast?_eq_some_getLast some)
    exact trailing.elim other.1 other.2

theorem bare_stripLine (line : List Char) : Bare (stripLine line) :=
  stripLine_eq_self_iff.1 (List.rdropWhile_idempotent isTrailing line)

theorem strips_iff {line kept : List Char} : Strips line kept ↔ kept = stripLine line := by
  constructor
  · rintro ⟨⟨run, rfl, trailing⟩, bare⟩
    induction run using List.reverseRecOn with
    | nil =>
        rw [List.append_nil]
        exact (stripLine_eq_self_iff.2 bare).symm
    | append_singleton run c ih =>
        have goes : isTrailing c := isTrailing_iff.2 (trailing c (by simp))
        rw [← List.append_assoc, stripLine_eq_rdropWhile, List.rdropWhile_concat_pos _ _ _ goes]
        exact ih fun d mem => trailing d (List.mem_append_left _ mem)
  · rintro rfl
    refine ⟨⟨(line.reverse.takeWhile isTrailing).reverse, ?_, ?_⟩, bare_stripLine line⟩
    · unfold stripLine
      rw [← List.reverse_append, List.takeWhile_append_dropWhile, List.reverse_reverse]
    · intro c mem
      exact isTrailing_iff.1 (List.mem_takeWhile_imp (List.mem_reverse.1 mem))

theorem forall₂_strips_iff {lines kept : List (List Char)} :
    List.Forall₂ Strips lines kept ↔ kept = lines.map stripLine := by
  constructor
  · intro strips
    induction strips with
    | nil => rfl
    | cons strips _ ih => rw [strips_iff.1 strips, ih, List.map_cons]
  · rintro rfl
    rw [List.forall₂_map_right_iff]
    exact List.forall₂_same.2 fun line _ => strips_iff.2 rfl

theorem splitOn_stripLines (cs : List Char) :
    (stripLines cs).splitOn '\n' = (cs.splitOn '\n').map stripLine := by
  unfold stripLines
  rw [Text.splitAll_eq_splitOn]
  apply List.splitOn_intercalate
  · intro line mem feed
    obtain ⟨whole, inside, rfl⟩ := List.mem_map.1 mem
    have kept : stripLine whole <+: whole := List.rdropWhile_prefix isTrailing whole
    exact Text.not_mem_of_mem_splitOn '\n' inside (kept.subset feed)
  · simp

theorem bare_stripLines (cs : List Char) :
    forall line, line ∈ (stripLines cs).splitOn '\n' -> Bare line := by
  intro line mem
  rw [splitOn_stripLines] at mem
  obtain ⟨whole, -, rfl⟩ := List.mem_map.1 mem
  exact bare_stripLine whole

theorem stripLines_eq_self_iff {cs : List Char} :
    stripLines cs = cs ↔ forall line, line ∈ cs.splitOn '\n' -> Bare line := by
  constructor
  · intro same
    rw [← same]
    exact bare_stripLines cs
  · intro bare
    have each : (cs.splitOn '\n').map stripLine = cs.splitOn '\n' := by
      rw [List.map_congr_left fun line mem => stripLine_eq_self_iff.2 (bare line mem)]
      exact List.map_id' _
    unfold stripLines
    rw [Text.splitAll_eq_splitOn, each]
    exact List.intercalate_splitOn '\n'

theorem stripsLines_iff {settings : EditorSettings} {before after : List Char} :
    StripsLines settings before after ↔
      after = if settings.stripTrailingWhitespace then stripLines before else before := by
  unfold StripsLines
  split
  · constructor
    · rintro ⟨lines, kept, has, hasKept, strips⟩
      rw [hasKept.joined, forall₂_strips_iff.1 strips, hasLines_iff.1 has,
        ← Text.splitAll_eq_splitOn]
      rfl
    · rintro rfl
      exact ⟨_, _, hasLines_iff.2 rfl, hasLines_iff.2 rfl,
        forall₂_strips_iff.2 (splitOn_stripLines before)⟩
  · exact Iff.rfl

/-! ## The last line -/

theorem closeLastLine_eq (cs : List Char) :
    closeLastLine cs = if cs ≠ [] ∧ cs.getLast? ≠ some '\n' then cs ++ ['\n'] else cs := by
  unfold closeLastLine
  by_cases closed : cs = [] ∨ cs.getLast? = some '\n'
  · rw [if_pos closed, if_neg fun both => closed.elim both.1 both.2]
  · rw [if_neg closed, if_pos (not_or.1 closed)]

theorem closeLastLine_eq_self_iff {cs : List Char} :
    closeLastLine cs = cs ↔ cs = [] ∨ cs.getLast? = some '\n' := by
  unfold closeLastLine
  constructor
  · intro same
    by_contra unclosed
    rw [if_neg unclosed] at same
    simp at same
  · intro closed
    exact if_pos closed

theorem closed_closeLastLine (cs : List Char) :
    closeLastLine cs = [] ∨ (closeLastLine cs).getLast? = some '\n' := by
  unfold closeLastLine
  split
  · assumption
  · exact .inr List.getLast?_concat

theorem bare_closeLastLine {cs : List Char}
    (bare : forall line, line ∈ cs.splitOn '\n' -> Bare line) :
    forall line, line ∈ (closeLastLine cs).splitOn '\n' -> Bare line := by
  unfold closeLastLine
  split
  · exact bare
  · intro line mem
    rw [List.splitOn_append_cons_self] at mem
    rcases List.mem_append.1 mem with before | last
    · exact bare line before
    · cases List.mem_singleton.1 last
      nofun

/-! ## Normalizing -/

section

variable {settings : EditorSettings}

theorem settled_iff {cs : List Char} :
    Settled settings cs ↔
      (settings.stripTrailingWhitespace -> stripLines cs = cs) ∧
        (settings.ensureTrailingNewline -> closeLastLine cs = cs) := by
  rw [stripLines_eq_self_iff, closeLastLine_eq_self_iff]
  constructor
  · intro settled
    exact ⟨fun strips => settled.bare strips _ (hasLines_iff.2 rfl), settled.closed⟩
  · rintro ⟨bare, closed⟩
    refine ⟨fun strips lines has => ?_, closed⟩
    rw [hasLines_iff.1 has]
    exact bare strips

theorem normalizeChars_of_settled {cs : List Char} (settled : Settled settings cs) :
    normalizeChars settings cs = cs := by
  obtain ⟨stripped, closed⟩ := settled_iff.1 settled
  have same : (if settings.stripTrailingWhitespace then stripLines cs else cs) = cs := by
    split
    · exact stripped ‹_›
    · rfl
  unfold normalizeChars
  dsimp only
  rw [same]
  split
  · exact closed ‹_›
  · rfl

theorem settled_normalizeChars (cs : List Char) :
    Settled settings (normalizeChars settings cs) := by
  constructor
  · intro strips lines has
    rw [hasLines_iff.1 has]
    unfold normalizeChars
    rw [if_pos strips]
    dsimp only
    split
    · exact bare_closeLastLine (bare_stripLines cs)
    · exact bare_stripLines cs
  · intro ensures
    unfold normalizeChars
    rw [if_pos ensures]
    exact closed_closeLastLine _

theorem normalizes_iff {content result : List Char} :
    Normalizes settings content result ↔ result = normalizeChars settings content := by
  unfold Normalizes normalizeChars
  simp only [stripsLines_iff, exists_eq_left, closeLastLine_eq]
  cases settings.ensureTrailingNewline <;> simp

theorem normalize_eq_iff {content result : String} :
    normalize settings content = result ↔ Normalizes settings content.toList result.toList := by
  unfold normalize
  rw [normalizes_iff]
  constructor
  · rintro rfl
    exact String.toList_ofList
  · intro same
    rw [← same, String.ofList_toList]

theorem settled_normalize (content : String) :
    Settled settings (normalize settings content).toList := by
  unfold normalize
  rw [String.toList_ofList]
  exact settled_normalizeChars content.toList

theorem normalize_of_settled {text : String} (settled : Settled settings text.toList) :
    normalize settings text = text := by
  unfold normalize
  rw [normalizeChars_of_settled settled, String.ofList_toList]

end

end Editor

/-! ## Saving again -/

namespace Console

section

variable {c : Console}

theorem write_not_mem_guardedCalls {path text : String} (next : Guarded) :
    Call.write path text ∉ c.guardedCalls next := by
  have refused (failure : Failure) : Call.write path text ∉ next.refusal failure := by
    intro writes
    obtain ⟨message, same⟩ := error_of_mem_refusal writes
    cases same
  unfold guardedCalls askCalls
  split
  · split
    · simp
    · exact refused .busy
  · cases next <;> simp [Guarded.fetches]

theorem text_of_saveCall {saveAs : Bool} {path text : String}
    (writes : Call.write path text = c.saveCall saveAs) :
    text = c.textToWrite := by
  unfold saveCall at writes
  split at writes
  · exact (Call.write.inj writes).2
  · cases writes

theorem text_of_write_mem_firstCalls {notice : Except Failure Unit} {operation : Operation}
    {path text : String} (writes : Call.write path text ∈ c.firstCalls notice operation) :
    text = c.textToWrite := by
  cases operation with
  | create => exact absurd writes (write_not_mem_guardedCalls .create)
  | openFile => exact absurd writes (write_not_mem_guardedCalls .openFile)
  | save saveAs => exact text_of_saveCall (List.mem_singleton.1 writes)
  | download => exact absurd writes (write_not_mem_guardedCalls .download)
  | answer choice => cases choice with
    | save => exact text_of_saveCall (List.mem_singleton.1 writes)
    | _ => cases writes
  | changeMode mode => cases mode with
    | emergencyStop =>
        cases notice <;> simp [firstCalls, nextCalls, opensLog, Mode.isActive] at writes
    | _ => simp [firstCalls] at writes
  | _ => simp [firstCalls] at writes

theorem text_of_write_mem_nextCalls {wait : Wait} {answer : wait.Reply} {path text : String}
    (writes : Call.write path text ∈ c.nextCalls wait answer) :
    exists content, text = c.savedText content := by
  have silent {what : String} {failure : Failure} : Call.write path text ∉ report what failure := by
    intro member
    obtain ⟨message, same⟩ := error_of_mem_report member
    cases same
  cases wait with
  | confirmation id next => cases answer with
    | ok => cases next <;> simp [nextCalls, Guarded.fetches] at writes
    | error failure =>
        have refused : Call.write path text ∈ next.refusal failure := writes
        obtain ⟨message, same⟩ := error_of_mem_refusal refused
        cases same
  | openPath => cases answer <;> simp [nextCalls] at writes
  | readFile path => cases answer <;> simp [nextCalls, silent] at writes
  | download => cases answer <;> simp [nextCalls, silent] at writes
  | upload content => cases answer <;> simp [nextCalls, silent] at writes
  | savePath purpose content => cases answer with
    | none => cases writes
    | some chosen => exact ⟨content, (Call.write.inj (List.mem_singleton.1 writes)).2⟩
  | writeFile purpose path content => cases answer <;> simp [nextCalls, silent] at writes
  | invoke mode => cases answer with
    | ok =>
        simp only [nextCalls] at writes
        split at writes <;> simp at writes
    | error failure => simp [nextCalls] at writes

theorem text_of_write_mem_deed {m : Move} {task : Nat} {deed : Deed} {path text : String}
    (found : c.deed? m = some (task, deed)) (writes : Call.write path text ∈ deed.calls) :
    exists content, text = c.savedText content := by
  cases c.turn m with
  | begins operation notice starts same moved =>
      cases found.symm.trans same
      exact ⟨_, text_of_write_mem_firstCalls writes⟩
  | goesOn other wait answer waits resumed same moved =>
      cases found.symm.trans same
      exact text_of_write_mem_nextCalls writes
  | dropped other wait drops waits same moved => cases found.symm.trans same
  | none same moved => cases found.symm.trans same

/-- All texts that were written so far are normalized. -/
def WritesSettled (c : Console) : Prop :=
  forall path text, Call.write path text ∈ c.calls -> Editor.Settled c.settings.editor text.toList

theorem WritesSettled.step (before : c.WritesSettled) (m : Move) : (c.step m).WritesSettled := by
  intro path text writes
  rw [step_settings]
  rw [(step_writes c m).1] at writes
  rcases List.mem_append.1 writes with earlier | now
  · exact before path text earlier
  · cases found : c.deed? m with
    | none =>
        rw [found] at now
        cases now
    | some entry =>
        rw [found] at now
        have writes : Call.write path text ∈ entry.2.calls := now
        obtain ⟨content, rfl⟩ := text_of_write_mem_deed found writes
        exact Editor.settled_normalize content

theorem writesSettled_play (settings : Settings) (hasLogDisplay : Bool) (moves : List Move) :
    ((fresh settings hasLogDisplay).play moves).WritesSettled := by
  have start : (fresh settings hasLogDisplay).WritesSettled := by
    intro path text writes
    cases writes
  exact play_keeps (P := WritesSettled) (fun _ m before => before.step m) start moves

end

/-- The text of a save is what the reference says; a text that was saved is settled, so that
normalizing changes nothing in it. In every run, once the text in the buffer has been written,
saving it writes the same text again. -/
theorem normalize_settles_texts (settings : Settings) (content : String) :
    let normal := Editor.normalize settings.editor content
    (forall result, normal = result ↔
      Editor.Normalizes settings.editor content.toList result.toList) ∧
    Editor.normalize settings.editor normal = normal ∧
    (settings.editor.stripTrailingWhitespace -> forall lines, Editor.HasLines normal.toList lines ->
      forall line, line ∈ lines -> Editor.Bare line) ∧
    (settings.editor.ensureTrailingNewline ->
      normal.toList = [] ∨ normal.toList.getLast? = some '\n') ∧
    forall hasLogDisplay moves,
      let c := (fresh settings hasLogDisplay).play moves
      let saved := c.state.editor.content
      (exists path, Call.write path saved ∈ c.calls) -> c.textToWrite = saved ∧
        forall saveAs notice,
          let save := Move.start (.save saveAs) notice
          (forall known, c.knownPath? saveAs = some known ->
            c.callsBy [save] (c.started + 1) = [.write known saved]) ∧
          forall during,
            let writes := (c.callsBy (save :: during) (c.started + 1)).filter Call.isWrite
            writes = [] ∨ exists path, writes = [.write path saved] := by
  intro normal
  have settled : Editor.Settled settings.editor normal.toList := Editor.settled_normalize content
  refine ⟨fun _ => Editor.normalize_eq_iff, Editor.normalize_of_settled settled, settled.bare,
    settled.closed, ?_⟩
  intro hasLogDisplay moves c saved written
  obtain ⟨path, written⟩ := written
  have same : c.textToWrite = saved :=
    Editor.normalize_of_settled (writesSettled_play settings hasLogDisplay moves path saved written)
  have numbered : c.Numbered := (numbered_fresh settings hasLogDisplay).play moves
  refine ⟨same, fun saveAs notice => ⟨fun known path => ?_, fun during => ?_⟩⟩
  · rw [callsBy_eq, deeds_start]
    show [c.saveCall saveAs] = _
    unfold saveCall
    unfold knownPath? at path
    rw [path, ← same]
    rfl
  · have writes := (story_play numbered (.save saveAs) notice during).saveProgress.writes
    rw [← callsBy_eq, same] at writes
    exact writes

example :
    let settings : Settings := { editor := { stripTrailingWhitespace := true } }
    let save := Move.start (.save false) (.ok ())
    let c := (fresh settings).play [.edit "a \n\tb\t \r\n ", save,
      .reply 1 (.savePath .request "a \n\tb\t \r\n ") (some "a.py"),
      .reply 1 (.writeFile .request "a.py" "a \n\tb\t \r\n ") (.ok ())]
    c.calls.filter Call.isWrite = [.write "a.py" "a\n\tb\t \r\n"] ∧
      c.state.editor.content = "a\n\tb\t \r\n" ∧
      c.callsBy [save] 2 = [.write "a.py" "a\n\tb\t \r\n"] := by
  decide

end Console
end RobotConsole
