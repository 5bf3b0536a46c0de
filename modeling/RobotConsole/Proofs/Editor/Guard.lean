import RobotConsole.Proofs.Console.Asking
import RobotConsole.Proofs.Console.Deeds
import RobotConsole.Proofs.Gate.Outcomes

/-!
# Waiting for a confirmation

An operation that would lose unsaved changes does nothing before its own request is
confirmed: it does not ask for a path, reads no file, fetches nothing from the controller
and leaves the buffer alone. If its request comes to nothing the operation ends with the
failure of the request. Operations that lose nothing ask for no confirmation.
-/

namespace RobotConsole

/-- Whether a call is for something that is to replace the buffer. -/
def Call.fetches : Call -> Bool
  | openPath => true
  | read _ => true
  | download _ => true
  | _ => false

/-- The operations that unsaved changes hold up. -/
def Operation.guarded? : Operation -> Option Guarded
  | create => some .create
  | openFile => some .openFile
  | download => some .download
  | _ => none

namespace Console

/-- An operation has called for nothing in a run that is to replace the buffer, and has not
changed the buffer. -/
structure Harmless (c : Console) (moves : List Move) (task : Nat) : Prop where
  calls : forall call, call ∈ c.callsBy moves task -> call.fetches = false
  buffers : forall buffers, buffers ∈ c.buffersBy moves task -> buffers.2 = buffers.1

end Console

/-! ## Deeds that touch nothing -/

structure Deed.Harmless (deed : Deed) : Prop where
  calls : forall call, call ∈ deed.calls -> call.fetches = false
  change : deed.effect.change = none

theorem Guarded.refusal_harmless (next : Guarded) (failure : Failure) (effect : Effect)
    (result? : Option OperationResult) (kept : effect.change = none) :
    Deed.Harmless ⟨next.refusal failure, effect, result?⟩ := by
  refine ⟨?_, kept⟩
  intro call member
  rcases error_of_mem_refusal member with ⟨message, rfl⟩
  rfl

namespace Console

section

variable {c : Console} {task : Nat} {m : Move}

theorem harmless_of_deeds {moves : List Move}
    (harmless : forall deed, deed ∈ c.deeds moves task -> deed.Harmless) :
    c.Harmless moves task := by
  constructor
  · intro call made
    rw [callsBy_eq] at made
    rcases List.mem_flatMap.1 made with ⟨deed, member, call⟩
    exact (harmless deed member).calls _ call
  · exact buffersBy_kept c moves task fun deed member => (harmless deed member).change

end

/-! ## Held up by a request -/

section

variable {c : Console} {task : Nat} {id : RequestId} {next : Guarded} {m : Move}
  {outcome : Except Failure Unit}

theorem collected_of_resumed
    (resumed : c.resumed? m = some (task, ⟨.confirmation id next, outcome⟩)) :
    c.ending? m = some (id, some outcome) ∧
      exists expired, (c.outcome? id expired).map Prod.snd = some outcome := by
  cases m with
  | reply mover wait answer =>
      simp only [resumed?] at resumed
      split at resumed
      · rename_i applies
        cases resumed
        cases applies.1
      · cases resumed
  | wake mover expired =>
      rcases Option.map_eq_some_iff.1 resumed with ⟨⟨id', next', outcome'⟩, found, same⟩
      cases same
      rcases wake_of_collected c found with ⟨_, message, outcomes, _⟩
      refine ⟨?_, expired, ?_⟩
      · simp [ending?, found]
      · rw [outcomes]
        rfl
  | _ => cases resumed

theorem ending?_drop (waits : c.wait? task = some (.confirmation id next)) :
    c.ending? (.drop task) = some (id, none) := by
  simp [ending?, request?_of_wait waits, Wait.request?]

def asking : Deed where
  calls := []
  effect := { asks := true }
  result? := none

inductive Held (c : Console) (id : RequestId) (next : Guarded) :
    List Deed -> List (Option (Except Failure Unit)) -> Option Wait -> Prop where
  | waiting : Held c id next [asking] [] (some (.confirmation id next))
  | dropped : Held c id next [asking] [none] none
  | refused (failure : Failure) :
      Held c id next [asking, c.nextDeed (.confirmation id next) (.error failure)]
        [some (.error failure)] none
  | released {deeds : List Deed} {wait? : Option Wait} :
      Held c id next deeds [some (.ok ())] wait?

/-- An operation that had to ask in one console, in another one that a run reached from there. -/
structure HeldUp (c c' : Console) (task : Nat) (id : RequestId) (next : Guarded)
    (deeds : List Deed) (ways : List Release) (ends : List (Option (Except Failure Unit))) :
    Prop where
  held : c.Held id next deeds ends (c'.wait? task)
  known : task ≤ c'.started
  given : c'.settings = c.settings ∧ c'.hasLogDisplay = c.hasLogDisplay
  coherent : c'.Coherent
  stage : c'.Stage id ways ends

end

section

variable {c c' : Console} {task : Nat} {id : RequestId} {next : Guarded} {deeds : List Deed}
  {ways : List Release} {ends : List (Option (Except Failure Unit))}

theorem Stage.ends_of_append {first : Option (Except Failure Unit)}
    {later : List (Option (Except Failure Unit))}
    (stage : c.Stage id ways ([first] ++ later)) : later = [] := by
  cases stage with
  | ended => rfl

theorem HeldUp.step (h : c.HeldUp c' task id next deeds ways ends) (m : Move) :
    c.HeldUp (c'.step m) task id next (deeds ++ ofTask task (c'.deed? m).toList)
      (ways ++ ofRequest id (c'.release? m).toList)
      (ends ++ ofRequest id (c'.ending? m).toList) := by
  rcases h with ⟨held, known, ⟨settings, display⟩, coherent, stage⟩
  have numbered := coherent.numbered
  have coherent' := coherent.step m
  have stage' := stage.step coherent m
  have given := step_given c' m
  refine ⟨?_, ?_, ⟨given.1.trans settings, given.2.trans display⟩, coherent', stage'⟩
  · generalize before : c'.wait? task = wait? at held
    cases held with
    | waiting => cases turnOf numbered known before m with
      | goesOn outcome resumed deed after =>
          have ending := (collected_of_resumed resumed).1
          rw [deed, ending, after, nextDeed_congr settings display]
          cases outcome with
          | ok => simpa [ofTask, ofRequest] using Held.released
          | error failure => simpa [ofTask, ofRequest, Wait.next?] using Held.refused failure
      | dropped drops deed after =>
          have ending := ending?_drop before
          rw [← drops] at ending
          rw [deed, ending, after]
          simpa [ofTask, ofRequest] using Held.dropped
      | waitsOn deed after =>
          rw [deed, after]
          rcases stage'.of_waits coherent'.awaited (request?_of_wait after) with
            ⟨_, noEnds, _⟩ | ⟨_, _, _, noEnds, _⟩
          · rw [noEnds]
            exact .waiting
          · rw [noEnds]
            exact .waiting
    | dropped =>
        rcases stays_over numbered known before m with ⟨deed, after⟩
        rw [deed, after, stage'.ends_of_append]
        exact .dropped
    | refused failure =>
        rcases stays_over numbered known before m with ⟨deed, after⟩
        rw [deed, after, stage'.ends_of_append]
        exact .refused failure
    | released =>
        rw [stage'.ends_of_append]
        exact .released
  · exact Nat.le_trans known (started_le_play c' [m])

/-! ## How a request lets its operation go -/

theorem Stage.way_of_ended {outcome : Except Failure Unit}
    (stage : c.Stage id ways [some outcome]) :
    exists way, ways = [way] ∧ way.outcome? c.settings.gate.timeout = some outcome := by
  cases stage with
  | ended way _ accepted nobody agrees =>
      rcases agrees with same | ⟨nothing, _⟩
      · exact ⟨way, rfl, same.symm⟩
      · cases nothing

/-- What an operation finds that waits for its request is what became of the request, or that
its time is up. -/
theorem Stage.way_of_found (stage : c.Stage id ways ends) (awaited : c.Awaited)
    (waits : c.request? task = some id) {expired : Bool} {outcome : Except Failure Unit}
    (found : (c.outcome? id expired).map Prod.snd = some outcome) :
    (ways = [] ∧ outcome = .error (.timedOut c.settings.gate.timeout)) ∨
      exists way, ways = [way] ∧ way.outcome? c.settings.gate.timeout = some outcome := by
  rw [outcome?_snd] at found
  rcases stage.of_waits awaited waits with
    ⟨noWays, _, taken⟩ | ⟨way, verdict, oneWay, _, leaves, posted⟩
  · rw [(awaited.unanswered task id waits).1 taken] at found
    cases expired with
    | false => cases found
    | true => exact .inl ⟨noWays, (Option.some.inj found).symm⟩
  · rw [posted] at found
    cases found
    exact .inr ⟨way, oneWay, Release.outcome?_of_verdict leaves _⟩

theorem confirmed_of_outcome {timeout : Duration} {way : Release}
    (h : way.outcome? timeout = some (.ok ())) : way = .answered .confirmed := by
  cases way with
  | answered resolution => cases resolution with
    | confirmed => rfl
    | cancelled => cases h
  | _ => cases h

theorem asking_harmless : asking.Harmless :=
  ⟨by simp [asking], rfl⟩

theorem refused_harmless (c : Console) (id : RequestId) (next : Guarded) (failure : Failure) :
    (c.nextDeed (.confirmation id next) (.error failure)).Harmless :=
  next.refusal_harmless failure {} (some (.error failure)) rfl

theorem Held.harmless {wait? : Option Wait} (held : c.Held id next deeds ends wait?) :
    (forall deed, deed ∈ deeds -> deed.Harmless) ∨ ends = [some (.ok ())] := by
  have asked (deed : Deed) (member : deed ∈ [asking]) : deed.Harmless := by
    rw [List.mem_singleton.1 member]
    exact asking_harmless
  cases held with
  | waiting => exact .inl asked
  | dropped => exact .inl asked
  | refused failure =>
      left
      intro deed member
      rcases List.mem_cons.1 member with rfl | last
      · exact asking_harmless
      · rw [List.mem_singleton.1 last]
        exact refused_harmless c id next failure
  | released => exact .inr rfl

/-- Only a request that was confirmed before lets its operation do harm with the next move. -/
theorem HeldUp.harmless (h : c.HeldUp c' task id next deeds ways ends) (m : Move) :
    (forall deed, deed ∈ deeds ++ ofTask task (c'.deed? m).toList -> deed.Harmless) ∨
      ways = [.answered .confirmed] := by
  rcases (h.step m).held.harmless with harmless | letGo
  · exact .inl harmless
  · right
    have later := (h.step m).stage
    rcases h with ⟨held, known, _, coherent, stage⟩
    generalize before : c'.wait? task = wait? at held
    cases held with
    | waiting => cases turnOf coherent.numbered known before m with
      | goesOn outcome resumed deed after =>
          rcases collected_of_resumed resumed with ⟨ending, expired, found⟩
          have confirmed : outcome = .ok () := by
            simpa [ending, ofRequest] using letGo
          rcases stage.way_of_found coherent.awaited (request?_of_wait before) found with
            ⟨_, late⟩ | ⟨way, oneWay, same⟩
          · rw [confirmed] at late
            cases late
          · rw [confirmed] at same
            rw [oneWay, confirmed_of_outcome same]
      | dropped drops deed after =>
          have ending := ending?_drop before
          rw [← drops] at ending
          simp [ending, ofRequest] at letGo
      | waitsOn deed after =>
          rw [letGo] at later
          rcases later.of_waits (coherent.step m).awaited (request?_of_wait after) with
            ⟨_, noEnds, _⟩ | ⟨_, _, _, noEnds, _⟩
          · cases noEnds
          · cases noEnds
    | dropped => cases letGo
    | refused failure => cases letGo
    | released =>
        rcases stage.way_of_ended with ⟨way, oneWay, same⟩
        rw [oneWay, confirmed_of_outcome same]

theorem collected?_of_verdict (waits : c.wait? task = some (.confirmation id next))
    {verdict : Verdict} (posted : c.gate.verdict? id = some verdict) (expired : Bool) :
    c.collected? task expired = some (id, next, verdict.outcome) := by
  have found := c.outcome?_snd id expired
  rw [posted] at found
  rcases Option.map_eq_some_iff.1 found with ⟨⟨message, outcome⟩, found, rfl⟩
  simp [collected?, waits, found]

theorem deed?_wake_of_verdict (waits : c.wait? task = some (.confirmation id next))
    {verdict : Verdict} (posted : c.gate.verdict? id = some verdict) (expired : Bool) :
    c.deed? (.wake task expired) =
      some (task, c.nextDeed (.confirmation id next) verdict.outcome) := by
  simp [deed?, collected?_of_verdict waits posted]

theorem HeldUp.fails (h : c.HeldUp c' task id next deeds ways ends) {way : Release}
    {failure : Failure} (oneWay : ways = [way])
    (fails : way.outcome? c.settings.gate.timeout = some (.error failure)) :
    (forall deed, deed ∈ deeds -> deed.Harmless) ∧
      (ends = [none] ∨ forall expired,
        (deeds ++ ofTask task (c'.deed? (.wake task expired)).toList).filterMap Deed.result? =
          [.error failure]) := by
  have letGoNot {outcome : Except Failure Unit} (ended : ends = [some outcome]) :
      outcome = .error failure := by
    have stage := h.stage
    rw [ended] at stage
    rcases stage.way_of_ended with ⟨way', oneWay', same⟩
    rw [oneWay] at oneWay'
    cases oneWay'
    rw [h.given.1, fails] at same
    exact (Option.some.inj same).symm
  refine ⟨?_, ?_⟩
  · rcases h.held.harmless with harmless | letGo
    · exact harmless
    · cases letGoNot letGo
  · rcases h with ⟨held, known, ⟨settings, display⟩, coherent, stage⟩
    generalize before : c'.wait? task = wait? at held
    cases held with
    | waiting =>
        right
        intro expired
        rcases stage.of_waits coherent.awaited (request?_of_wait before) with
          ⟨noWays, _⟩ | ⟨way', verdict, oneWay', _, leaves, posted⟩
        · rw [oneWay] at noWays
          cases noWays
        · rw [oneWay] at oneWay'
          cases oneWay'
          have same := Release.outcome?_of_verdict leaves c.settings.gate.timeout
          rw [fails] at same
          rw [deed?_wake_of_verdict before posted, ← Option.some.inj same]
          simp [ofTask, asking, nextDeed, Wait.result?]
    | dropped => exact .inl rfl
    | refused failure' =>
        right
        intro expired
        cases letGoNot rfl
        rw [(stays_over coherent.numbered known before (.wake task expired)).1]
        simp [asking, nextDeed, Wait.result?]
    | released => cases letGoNot rfl

end

/-! ## Operations that must ask -/

section

variable {c : Console} {operation : Operation} {next : Guarded}

theorem firstDeed_of_guarded (guards : operation.guarded? = some next)
    (dirty : c.state.editor.dirty = true) (notice : Except Failure Unit) :
    c.firstDeed notice operation = ⟨c.askCalls next, { asks := true }, c.askResult?⟩ ∧
      c.firstWait? operation = c.askWait? next := by
  have guarded (next : Guarded) : c.guardedCalls next = c.askCalls next ∧
      next.firstEffect c.state.editor.dirty = { asks := true } ∧
      c.guardedResult? next = c.askResult? ∧ c.guardedWait? next = c.askWait? next := by
    simp [guardedCalls, Guarded.firstEffect, guardedResult?, guardedWait?, dirty]
  cases operation <;> cases guards <;>
    simp [firstDeed, firstCalls, Operation.effect, firstResult?, firstWait?, guarded]

theorem firstDeed_of_clean (guards : operation.guarded? = some next)
    (clean : c.state.editor.dirty = false) (notice : Except Failure Unit) :
    c.firstDeed notice operation =
        ⟨next.fetches c.settings.remote, next.effect, next.result?⟩ ∧
      c.firstWait? operation = next.wait? := by
  have unguarded (next : Guarded) : c.guardedCalls next = next.fetches c.settings.remote ∧
      next.firstEffect c.state.editor.dirty = next.effect ∧
      c.guardedResult? next = next.result? ∧ c.guardedWait? next = next.wait? := by
    simp [guardedCalls, Guarded.firstEffect, guardedResult?, guardedWait?, clean]
  cases operation <;> cases guards <;>
    simp [firstDeed, firstCalls, Operation.effect, firstResult?, firstWait?, unguarded]

end

section

variable (settings : Settings) (hasLogDisplay : Bool) (before : List Move)

/-- Whatever follows, an operation that must ask is held up by its own request. -/
theorem heldUp_play {operation : Operation} {next : Guarded}
    (guards : operation.guarded? = some next) (notice : Except Failure Unit)
    (after : List Move) :
    let first := fresh settings hasLogDisplay
    let c := first.play before
    let run := Move.start operation notice :: after
    c.state.editor.dirty = true -> c.gate.outstanding = none ->
    c.HeldUp (c.play run) (c.started + 1) c.gate.next next (c.deeds run (c.started + 1))
      (first.releases (before ++ run) c.gate.next)
      (first.endings (before ++ run) c.gate.next) := by
  intro first c run dirty free
  have numbered : c.Numbered := (numbered_fresh settings hasLogDisplay).play before
  -- By induction on the last move; the histories of the gate are those of the whole run.
  induction after using List.reverseRecOn with
  | nil =>
      rcases firstDeed_of_guarded guards dirty notice with ⟨asked, waits⟩
      have ask : c.firstDeed notice operation = asking := by
        rw [asked]
        simp [askCalls, askResult?, free, asking]
      have waits : (c.play run).wait? (c.started + 1) =
          some (.confirmation c.gate.next next) := by
        have began := wait?_start c numbered operation notice (c.started + 1)
        rw [if_pos rfl, waits] at began
        refine began.trans ?_
        simp [askWait?, free]
      have stage := stage_play settings hasLogDisplay (before ++ run) c.gate.next
      have coherent := coherent_play settings hasLogDisplay (before ++ run)
      rw [play_append] at stage coherent
      refine ⟨?_, known_play c operation notice [], ⟨?_, ?_⟩, coherent, stage⟩
      · have noEnds : first.endings (before ++ run) c.gate.next = [] := by
          rcases stage.of_waits coherent.awaited (request?_of_wait waits) with
            ⟨_, noEnds, _⟩ | ⟨_, _, _, noEnds, _⟩
          · exact noEnds
          · exact noEnds
        rw [waits, noEnds, deeds_start, ask]
        exact .waiting
      · exact play_settings c run
      · exact play_hasLogDisplay c run
  | append_singleton after m ih =>
      let earlier := Move.start operation notice :: after
      have later : before ++ run = (before ++ earlier) ++ [m] := by
        rw [List.append_assoc]
        rfl
      have here : first.play (before ++ earlier) = c.play earlier := play_append first before earlier
      have step := ih.step m
      rw [later, releases_snoc, endings_snoc, here]
      rw [← deeds_snoc, ← play_snoc] at step
      exact step

end

theorem Story.deeds_of_finished {c : Console} {notice : Except Failure Unit}
    {operation : Operation} {deeds : List Deed} {wait? : Option Wait}
    (story : c.Story notice operation deeds wait?) (finished : c.firstWait? operation = none) :
    deeds = [c.firstDeed notice operation] ∧ wait? = none := by
  induction story with
  | begun => exact ⟨rfl, finished⟩
  | wentOn before answer ih => cases ih.2
  | dropped before ih => cases ih.2

theorem Story.asks {c : Console} {notice : Except Failure Unit} {operation : Operation}
    {deeds : List Deed} {wait? : Option Wait} (story : c.Story notice operation deeds wait?)
    (quiet : (operation.effect c.state.editor.dirty notice).asks = false) :
    forall deed, deed ∈ deeds -> deed.effect.asks = false := by
  induction story with
  | begun =>
      intro deed member
      rw [List.mem_singleton.1 member]
      exact quiet
  | wentOn before answer ih =>
      intro deed member
      rcases List.mem_append.1 member with earlier | last
      · exact ih deed earlier
      · rw [List.mem_singleton.1 last]
        exact Wait.effect_asks c.settings.editor _ answer
  | dropped before ih => exact ih

section

variable {c : Console} {operation : Operation}

theorem turned_away (numbered : c.Numbered) {next : Guarded}
    (guards : operation.guarded? = some next) (dirty : c.state.editor.dirty = true)
    (taken : c.gate.outstanding ≠ none) (notice : Except Failure Unit) (after : List Move) :
    c.Harmless (.start operation notice :: after) (c.started + 1) ∧
      c.resultsBy (.start operation notice :: after) (c.started + 1) = [.error .busy] := by
  rcases firstDeed_of_guarded guards dirty notice with ⟨asked, waits⟩
  have finished : c.firstWait? operation = none := by
    rw [waits]
    simp [askWait?, taken]
  have refused : c.firstDeed notice operation =
      ⟨next.refusal .busy, { asks := true }, some (.error .busy)⟩ := by
    rw [asked]
    simp [askCalls, askResult?, taken]
  have only := ((story_play numbered operation notice after).deeds_of_finished finished).1
  rw [refused] at only
  constructor
  · apply harmless_of_deeds
    intro deed member
    rw [only] at member
    rw [List.mem_singleton.1 member]
    exact next.refusal_harmless .busy _ _ rfl
  · rw [resultsBy_eq, only]
    rfl

theorem effect_of_guarded {next : Guarded} (guards : operation.guarded? = some next)
    (dirty : c.state.editor.dirty = true) (notice : Except Failure Unit) :
    c.effect (.start operation notice) = { asks := true } :=
  congrArg Deed.effect (firstDeed_of_guarded guards dirty notice).1

theorem acceptance?_of_guarded {next : Guarded} (guards : operation.guarded? = some next)
    (dirty : c.state.editor.dirty = true) (free : c.gate.outstanding = none)
    (notice : Except Failure Unit) :
    c.acceptance? (.start operation notice) = some c.gate.next ∧
      (c.step (.start operation notice)).gate = c.gate.accept := by
  have effect := effect_of_guarded guards dirty notice
  constructor
  · simp [acceptance?, effect, free]
  · rw [step_gate, outcomeOf, enact_gate, effect]
    simp [Gate.acceptIfFree, free]

theorem quiet_of_loses_nothing
    (losesNothing : (operation.guarded?.isSome ∧ c.state.editor.dirty = false) ∨
      (exists saveAs, operation = .save saveAs) ∨ operation = .upload)
    (notice : Except Failure Unit) :
    (operation.effect c.state.editor.dirty notice).asks = false := by
  rcases losesNothing with ⟨guards, clean⟩ | ⟨saveAs, rfl⟩ | rfl
  · rw [clean]
    cases operation with
    | create => rfl
    | openFile => rfl
    | download => rfl
    | _ => cases guards
  · rfl
  · rfl

theorem asks_nothing (numbered : c.Numbered) {notice : Except Failure Unit}
    (quiet : (operation.effect c.state.editor.dirty notice).asks = false) (after : List Move) :
    forall asked, asked ∈ c.parts Asks (.start operation notice :: after) (c.started + 1) ->
      ¬asked := by
  have story := story_play numbered operation notice after
  refine forall_parts c _ (c.started + 1) ?_ (story.asks quiet)
  intro c m task deed found silent
  rw [asks_iff, effect_of_deed found, silent]
  exact Bool.false_ne_true

end

/-- An operation that would lose unsaved changes calls for nothing and changes nothing before its
own request was confirmed. If its request comes to nothing, or is turned away because another one
is outstanding, it ends with the failure of the request, unless it is dropped before it finds out,
and has called for nothing and changed nothing. Operations that lose nothing ask for no
confirmation. -/
theorem guarded_operation_waits_for_confirmation (settings : Settings) (hasLogDisplay : Bool)
    (before : List Move) (operation : Operation) (notice : Except Failure Unit)
    (after : List Move) :
    let first := fresh settings hasLogDisplay
    let c := first.play before
    let run := Move.start operation notice :: after
    let task := c.started + 1
    let id := c.gate.next
    (forall next, operation.guarded? = some next -> c.state.editor.dirty = true ->
      c.Asks (.start operation notice) ∧
      (c.gate.outstanding ≠ none ->
        c.Harmless run task ∧ c.resultsBy run task = [.error .busy]) ∧
      (c.gate.outstanding = none ->
        c.acceptance? (.start operation notice) = some id ∧
        (c.step (.start operation notice)).gate = c.gate.accept ∧
        (forall m, c.Harmless (run ++ [m]) task ∨
          first.releases (before ++ run) id = [.answered .confirmed]) ∧
        (forall way failure, first.releases (before ++ run) id = [way] ->
          way.outcome? settings.gate.timeout = some (.error failure) ->
          c.Harmless run task ∧
            (first.endings (before ++ run) id = [none] ∨ forall expired,
              c.resultsBy (run ++ [.wake task expired]) task = [.error failure])))) ∧
    ((operation.guarded?.isSome ∧ c.state.editor.dirty = false) ∨
        (exists saveAs, operation = .save saveAs) ∨ operation = .upload ->
      forall asked, asked ∈ c.parts Asks run task -> ¬asked) := by
  intro first c run task id
  have numbered : c.Numbered := (numbered_fresh settings hasLogDisplay).play before
  have given : c.settings = settings := play_settings first before
  constructor
  · intro next guards dirty
    refine ⟨?_, fun taken => turned_away numbered guards dirty taken notice after, ?_⟩
    · rw [asks_iff, effect_of_guarded guards dirty]
    intro free
    have held := heldUp_play settings hasLogDisplay before guards notice after dirty free
    rcases acceptance?_of_guarded guards dirty free notice with ⟨accepted, gate⟩
    refine ⟨accepted, gate, ?_, ?_⟩
    · intro m
      rcases held.harmless m with harmless | confirmed
      · left
        apply harmless_of_deeds
        rwa [deeds_snoc]
      · exact .inr confirmed
    · intro way failure oneWay fails
      rw [← given] at fails
      rcases held.fails oneWay fails with ⟨harmless, ends⟩
      refine ⟨harmless_of_deeds harmless, ?_⟩
      rcases ends with dropped | results
      · exact .inl dropped
      · right
        intro expired
        rw [resultsBy_eq, deeds_snoc]
        exact results expired
  · intro losesNothing
    exact asks_nothing numbered (quiet_of_loses_nothing losesNothing notice) after

end Console
end RobotConsole
