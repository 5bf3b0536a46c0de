import RobotConsole.Proofs.Console.Run
import RobotConsole.Proofs.Numeric.Decimal

/-!
# Asking for a confirmation

That a move asks for a confirmation is seen at the gate: either the gate issues a request, or
it says that it turns one away. The main result is that the moves that ask are those whose
effect says so.
-/

namespace RobotConsole

def Happening.message? : Happening -> Option Message
  | said message => some message
  | _ => none

/-! ## Requests that are turned away -/

namespace Message

/-- The gate turns a request away, as another one is outstanding. -/
def Rejects (m : Message) : Prop :=
  exists id : RequestId,
    m = .warn ("Confirmation " ++ id.text ++ " still pending, rejecting new request")

section

variable {m : Message}

theorem not_rejects_of_severity (h : m.severity ≠ .warn) : ¬m.Rejects := by
  rintro ⟨id, rfl⟩
  exact h rfl

theorem not_rejects_debug (text : String) : ¬(debug text).Rejects :=
  not_rejects_of_severity (by simp [debug])

theorem not_rejects_info (text : String) : ¬(info text).Rejects :=
  not_rejects_of_severity (by simp [info])

theorem not_rejects_of_front (h : m.text.toList.take 4 ≠ ['C', 'o', 'n', 'f']) : ¬m.Rejects := by
  rintro ⟨id, rfl⟩
  refine h ?_
  simp [warn]

/-- A request that ran out of time was not turned away. The two texts part behind the number of
the request. -/
theorem not_rejects_expired (id : RequestId) (limit : String) :
    ¬(warn ("Confirmation " ++ id.text ++ " not resolved within " ++ limit)).Rejects := by
  rintro ⟨other, same⟩
  have texts := congrArg (fun m => m.text.toList.drop 14) same
  simp only [warn, RequestId.text, String.toList_append, Numeric.toList_toString,
    List.append_assoc] at texts
  have spans := congrArg Numeric.spanDigits texts
  have digits (n : Nat) (c : Char) (mem : c ∈ Nat.toDigits 10 n) : Numeric.isDigit c = true :=
    Numeric.isDigit_of_mem_toDigits mem
  have blank (rest : List Char) : Numeric.NoDigitAhead (' ' :: rest) := by
    intro c ahead
    cases ahead
    rfl
  have span (n : Nat) (rest : List Char) :
      Numeric.spanDigits (Nat.toDigits 10 n ++ ' ' :: rest) = (Nat.toDigits 10 n, ' ' :: rest) :=
    Numeric.spanDigits_append_of_digits (digits n) (blank rest)
  have parts := (span id.number _).symm.trans (spans.trans (span other.number _))
  cases congrArg (fun part => part.2[1]?) parts

end

end Message

section

variable {m : Message}

theorem Link.not_rejects_applyMode {link : Link Float} {mode : Mode}
    (mem : m ∈ link.applyModeMessages mode) : ¬m.Rejects := by
  unfold applyModeMessages at mem
  split at mem
  · rw [List.mem_singleton.1 mem]
    exact Message.not_rejects_debug _
  · cases mem

theorem Link.not_rejects_noteLog {link : Link Float} {event : LogEvent}
    (mem : m ∈ link.noteLogMessages event) : ¬m.Rejects := by
  unfold noteLogMessages at mem
  split at mem
  · cases mem
  · split at mem
    · rw [List.mem_singleton.1 mem]
      exact Message.not_rejects_debug _
    · split at mem
      · rw [List.mem_singleton.1 mem]
        exact Message.not_rejects_of_front (by simp [Message.warn])
      · cases mem

theorem Link.not_rejects_tick {before after : Link Float} (mem : m ∈ tickMessages before after) :
    ¬m.Rejects := by
  unfold tickMessages at mem
  split at mem
  · cases mem
  · rw [List.mem_singleton.1 mem]
    exact Message.not_rejects_info _

theorem Peripherals.not_rejects_snapshot {ps : Peripherals} {kind : DeviceKind}
    {samples : SampleMap} (mem : m ∈ ps.snapshotMessages kind samples) : ¬m.Rejects := by
  rcases List.mem_append.1 mem with brought | taken
  · rcases List.mem_map.1 brought with ⟨entry, _, rfl⟩
    exact Message.not_rejects_debug _
  · rcases List.mem_map.1 taken with ⟨p, _, rfl⟩
    exact Message.not_rejects_debug _

end

namespace Console

section

variable (c : Console)

def messages : List Message :=
  c.happenings.filterMap Happening.message?

/-- A confirmation was asked for on the way from one console to another one: the gate issued a
request since, or said that it turned one away. -/
def Asked (c' : Console) : Prop :=
  c'.gate.issued ≠ c.gate.issued ∨
    exists said, said ∈ c'.messages.drop c.messages.length ∧ said.Rejects

def Asks (m : Move) : Prop :=
  c.Asked (c.step m)

end

/-! ## Going on without asking -/

/-- A console in which nobody asked for a confirmation since. -/
structure Unasked (c c' : Console) : Prop where
  issued : c'.gate.issued = c.gate.issued
  heard : exists said, c'.messages = c.messages ++ said ∧ forall m, m ∈ said -> ¬m.Rejects

section

variable {c c' c'' : Console}

theorem Unasked.of_same (gate : c'.gate = c.gate) (journal : c'.journal = c.journal) :
    Unasked c c' := by
  refine ⟨by rw [gate], [], ?_, by simp⟩
  simp [messages, happenings, journal]

theorem Unasked.then (h : Unasked c c') (h' : Unasked c' c'') : Unasked c c'' := by
  rcases h with ⟨issued, said, heard, accepts⟩
  rcases h' with ⟨issued', said', heard', accepts'⟩
  refine ⟨issued'.trans issued, said ++ said', ?_, ?_⟩
  · rw [heard', heard, List.append_assoc]
  · intro m mem
    rcases List.mem_append.1 mem with first | second
    · exact accepts m first
    · exact accepts' m second

end

section

variable (c : Console)

theorem messages_happen (happening : Happening) :
    ({ c with journal := happening :: c.journal } : Console).messages =
      c.messages ++ happening.message?.toList := by
  unfold messages happenings
  rw [List.reverse_cons, List.filterMap_append]
  cases happening <;> rfl

theorem unasked_say {m : Message} (accepts : ¬m.Rejects) : Unasked c (c.say m) := by
  refine ⟨rfl, [m], messages_happen c (.said m), ?_⟩
  intro m' mem
  rwa [List.mem_singleton.1 mem]

theorem unasked_call (call : Call) : Unasked c (c.call call) :=
  ⟨rfl, [], messages_happen c (.called call), by simp⟩

theorem unasked_update (change : SessionState -> SessionState) : Unasked c (c.update change) :=
  ⟨rfl, [], messages_happen c (@Happening.published (change c.state)), by simp⟩

theorem unasked_sayAll {messages : List Message}
    (accepts : forall m, m ∈ messages -> ¬m.Rejects) : Unasked c (c.sayAll messages) := by
  unfold sayAll
  induction messages generalizing c with
  | nil => exact .of_same rfl rfl
  | cons m rest ih =>
      have later := ih (c.say m) fun m' mem => accepts m' (List.mem_cons_of_mem m mem)
      exact (unasked_say c (accepts m List.mem_cons_self)).then later

theorem unasked_debug (text : String) : Unasked c (c.say (.debug text)) :=
  unasked_say c (Message.not_rejects_debug text)

theorem unasked_info (text : String) : Unasked c (c.say (.info text)) :=
  unasked_say c (Message.not_rejects_info text)

theorem unasked_fail (what : String) (failure : Failure) : Unasked c (c.fail what failure) := by
  unfold fail
  split
  · exact unasked_debug c _
  · exact unasked_call c _

theorem unasked_failGuarded (next : Guarded) (failure : Failure) :
    Unasked c (c.failGuarded next failure).1 := by
  unfold failGuarded
  cases title? next with
  | none => exact .of_same rfl rfl
  | some what => exact unasked_fail c what failure

/-! ## The end of a request -/

theorem unasked_deliver (id : RequestId) (verdict : Verdict) :
    Unasked c (c.deliver id verdict) := by
  have taken : Unasked c { c with gate := c.gate.deliver id verdict } :=
    ⟨rfl, [], (List.append_nil _).symm, by simp⟩
  exact taken.then (unasked_update _ _)

theorem unasked_resolve (resolution : Resolution) : Unasked c (c.resolve resolution).1 := by
  unfold resolve
  split
  · exact unasked_deliver c _ _
  · exact unasked_debug c _

theorem unasked_resolveRequest (id : RequestId) (resolution : Resolution) :
    Unasked c (c.resolveRequest id resolution).1 := by
  unfold resolveRequest
  split
  · exact unasked_deliver c _ _
  · exact unasked_debug c _

theorem unasked_dismiss : Unasked c c.dismiss.1 := by
  unfold dismiss
  split
  · exact unasked_deliver c _ _
  · exact .of_same rfl rfl

theorem unasked_releaseRequest (id : RequestId) : Unasked c (c.releaseRequest id) := by
  have forgot : Unasked c { c with gate := c.gate.forget id } :=
    ⟨rfl, [], (List.append_nil _).symm, by simp⟩
  unfold releaseRequest
  dsimp only
  split
  · exact forgot.then (unasked_update _ _)
  · exact forgot

theorem not_rejects_outcome {id : RequestId} {expired : Bool} {message : Message}
    {outcome : Except Failure Unit} (found : c.outcome? id expired = some (message, outcome)) :
    ¬message.Rejects := by
  unfold outcome? at found
  dsimp only at found
  split at found
  · cases found
    exact Message.not_rejects_info _
  · cases found
    exact Message.not_rejects_info _
  · cases found
    exact Message.not_rejects_debug _
  · split at found
    · cases found
      exact Message.not_rejects_expired id _
    · cases found

/-! ## Parts of operations -/

theorem unasked_proceed (next : Guarded) : Unasked c (c.proceed next).1 := by
  cases next with
  | nothing => exact .of_same rfl rfl
  | create => exact (unasked_update c _).then (unasked_info _ _)
  | openFile => exact unasked_call c _
  | download => exact unasked_call c _

theorem unasked_save (purpose : SavePurpose) (saveAs : Bool) :
    Unasked c (c.save purpose saveAs).1 := by
  unfold save
  dsimp only
  split
  · exact unasked_call c _
  · exact unasked_call c _

theorem unasked_finishSave (purpose : SavePurpose) (result : Except Failure String) :
    Unasked c (c.finishSave purpose result).1 := by
  cases purpose with
  | request => cases result <;> exact .of_same rfl rfl
  | answer => cases result <;> exact unasked_resolve c _

theorem unasked_failSave (purpose : SavePurpose) (failure : Failure) :
    Unasked c (c.failSave purpose failure).1 :=
  (unasked_fail c "Save" failure).then (unasked_finishSave _ purpose _)

theorem unasked_modeSettled (mode : Mode) (answer : Except Failure Unit) :
    Unasked c (c.modeSettled mode answer).1 := by
  cases answer with
  | error failure =>
      have told : Unasked c (c.say (.warn ("Mode change to " ++ mode.label ++ " failed: " ++
          (requestFailure mode failure).message))) :=
        unasked_say c (Message.not_rejects_of_front (by simp [Message.warn]))
      exact told.then (unasked_call _ _)
  | ok =>
      have said : Unasked c (c.sayAll (c.state.link.applyModeMessages mode)) :=
        unasked_sayAll c fun _ mem => Link.not_rejects_applyMode mem
      have changed := said.then (unasked_update _ fun s =>
        { s with link := s.link.applyMode mode })
      have told := changed.then (unasked_info _ ("Mode changed to " ++ mode.label))
      unfold modeSettled
      dsimp only
      split
      · exact told.then (unasked_call _ .openLog)
      · exact told

theorem unasked_resume (wait : Wait) (answer : wait.Reply) :
    Unasked c (c.resume wait answer).1 := by
  cases wait with
  | confirmation id next => cases answer with
    | ok => exact unasked_proceed c next
    | error failure => exact unasked_failGuarded c next failure
  | openPath => cases answer with
    | none => exact unasked_failGuarded c .openFile .aborted
    | some path => exact unasked_call c _
  | readFile path => cases answer with
    | ok content =>
        exact (unasked_info c ("Opened " ++ path)).then (unasked_update _ fun s =>
          { s with editor := { path := some path, content, dirty := false } })
    | error failure => exact unasked_failGuarded c .openFile failure
  | download => cases answer with
    | ok content => exact ((unasked_update c _).then (unasked_info _ _)).then (unasked_call _ _)
    | error failure => exact unasked_failGuarded c .download failure
  | upload content => cases answer with
    | ok => exact (unasked_info c _).then (unasked_call _ _)
    | error failure => exact unasked_fail c "Upload" failure
  | savePath purpose content => cases answer with
    | none => exact unasked_failSave c purpose .aborted
    | some path => exact unasked_call c _
  | writeFile purpose path content => cases answer with
    | ok =>
        have saved := (unasked_info c ("Saved " ++ path)).then (unasked_update _ fun s =>
          { s with editor := s.editor.saved path content (c.savedText content) })
        exact saved.then (unasked_finishSave _ purpose (.ok path))
    | error failure => exact unasked_failSave c purpose failure
  | invoke mode => exact unasked_modeSettled c mode answer

theorem unasked_guarded {next : Guarded}
    (quiet : (next.firstEffect c.state.editor.dirty).asks = false) :
    Unasked c (c.guarded next).1 := by
  unfold guarded
  split
  · rename_i dirty
    rw [dirty] at quiet
    cases quiet
  · exact unasked_proceed c next

theorem unasked_begin {notice : Except Failure Unit} {operation : Operation}
    (quiet : (operation.effect c.state.editor.dirty notice).asks = false) :
    Unasked c (c.begin notice operation).1 := by
  cases operation with
  | confirm => cases quiet
  | create => exact unasked_guarded c quiet
  | openFile => exact unasked_guarded c quiet
  | save saveAs => exact unasked_save c .request saveAs
  | download => exact unasked_guarded c quiet
  | upload => exact unasked_call c _
  | answer choice =>
      have said := unasked_debug c ("Unsaved changes dialog answered: " ++ choice.title)
      cases choice with
      | discard => exact said.then (unasked_resolve _ .confirmed)
      | save => exact said.then (unasked_save _ .answer false)
      | cancel => exact said.then (unasked_resolve _ .cancelled)
  | changeMode mode => cases mode with
    | emergencyStop =>
        exact (unasked_call c _).then (unasked_modeSettled _ .emergencyStop notice)
    | _ => exact unasked_call c _

/-! ## Moves -/

theorem settle_gate (task : Nat) (p : Console × Progress) : (settle task p).gate = p.1.gate := by
  rcases p with ⟨c, wait | result⟩ <;> rfl

theorem settle_messages (task : Nat) (p : Console × Progress) :
    (settle task p).messages = p.1.messages := by
  rcases p with ⟨c, wait | result⟩
  · rfl
  · exact (messages_happen c (.ended task result)).trans (List.append_nil _)

theorem Unasked.settle {c : Console} {p : Console × Progress} (h : Unasked c p.1) (task : Nat) :
    Unasked c (settle task p) := by
  rcases h with ⟨issued, heard⟩
  refine ⟨?_, ?_⟩
  · rw [settle_gate, issued]
  · rw [settle_messages]
    exact heard

theorem unasked_reply (task : Nat) (wait : Wait) (answer : wait.Reply) :
    Unasked c (c.reply task wait answer) := by
  have removed : Unasked c (c.removeTask task) := .of_same rfl rfl
  unfold reply
  split
  · exact (removed.then (unasked_resume _ wait answer)).settle task
  · exact .of_same rfl rfl

theorem unasked_wake (task : Nat) (expired : Bool) : Unasked c (c.wake task expired) := by
  cases found : c.collected? task expired with
  | none =>
      rw [wake_of_not_collected c found]
      exact .of_same rfl rfl
  | some collected =>
      rcases collected with ⟨id, next, outcome⟩
      rcases wake_of_collected c found with ⟨_, message, outcome, woken⟩
      have said := unasked_say c (not_rejects_outcome c outcome)
      have released := said.then (unasked_releaseRequest _ id)
      have removed : Unasked c (c.wokenBy task id message) := released.then (.of_same rfl rfl)
      rw [woken]
      exact (removed.then (unasked_resume _ (.confirmation id next) _)).settle task

theorem unasked_drop (task : Nat) : Unasked c (c.drop task).1 := by
  have noted : Unasked c (c.dropped task) :=
    ⟨rfl, [], messages_happen (c.removeTask task) (.dropped task), by simp⟩
  cases found : c.wait? task with
  | none =>
      rw [drop_of_not_waiting c found]
      exact .of_same rfl rfl
  | some wait =>
      rw [drop_of_waiting c found]
      cases wait.request? with
      | none => exact noted
      | some id => exact noted.then (unasked_releaseRequest _ id)

theorem unasked_apply (now : Int) (event : TransportEvent) : Unasked c (c.apply now event) := by
  cases event with
  | telemetry batch =>
      have said : Unasked c (c.sayAll
          (c.state.peripherals.snapshotMessages batch.kind batch.samples)) :=
        unasked_sayAll c fun _ mem => Peripherals.not_rejects_snapshot mem
      exact (said.then (unasked_update _ fun s => s.applyBatch now batch)).then
        (unasked_debug _ _)
  | log event =>
      have said : Unasked c (c.sayAll (c.state.link.noteLogMessages event)) :=
        unasked_sayAll c fun _ mem => Link.not_rejects_noteLog mem
      exact said.then (unasked_update _ fun s => s.applyLog event)

theorem unasked_tick (now : Int) : Unasked c (c.tick now) := by
  have said : Unasked c (c.sayAll (c.state.link.tickMessages (c.state.link.tick now))) :=
    unasked_sayAll c fun _ mem => Link.not_rejects_tick mem
  exact said.then (unasked_update _ fun s => s.tick now)

theorem unasked_step {m : Move} (quiet : (c.effect m).asks = false) : Unasked c (c.step m) := by
  cases m with
  | start operation notice =>
      have counted : Unasked c { c with started := c.started + 1 } := .of_same rfl rfl
      exact (counted.then (unasked_begin _ quiet)).settle (c.started + 1)
  | reply task wait answer => exact unasked_reply c task wait answer
  | wake task expired => exact unasked_wake c task expired
  | drop task => exact unasked_drop c task
  | resolve r => exact unasked_resolve c r
  | resolveRequest id r => exact unasked_resolveRequest c id r
  | dismiss => exact unasked_dismiss c
  | edit content => exact unasked_update c fun _ => _
  | setAlliance alliance =>
      have changed := unasked_update c fun s => { s with link := s.link.setAlliance alliance }
      cases alliance <;> exact changed.then (unasked_info _ _)
  | apply now event => exact unasked_apply c now event
  | tick now => exact unasked_tick c now

/-! ## Asking -/

theorem Unasked.not_asked {c c' : Console} (h : Unasked c c') : ¬Asked c c' := by
  rcases h with ⟨issued, said, heard, accepts⟩
  rintro (differs | ⟨m, mem, rejects⟩)
  · exact differs issued
  · rw [heard, List.drop_left] at mem
    exact accepts m mem rejects

theorem asked_ask (next : Guarded) : Asked c (c.ask next).1 := by
  unfold ask requestConfirmation
  cases c.gate.outstanding with
  | none => exact .inl (Nat.succ_ne_self c.gate.issued)
  | some id =>
      let rejection : Message :=
        .warn ("Confirmation " ++ id.text ++ " still pending, rejecting new request")
      rcases unasked_failGuarded (c.say rejection) next .busy with ⟨_, later, heard, _⟩
      refine .inr ⟨rejection, ?_, id, rfl⟩
      have said : (c.say rejection).messages = c.messages ++ [rejection] :=
        messages_happen c (.said rejection)
      dsimp only
      rw [heard, said, List.append_assoc, List.drop_left]
      exact List.mem_cons_self

theorem asked_guarded {next : Guarded}
    (asks : (next.firstEffect c.state.editor.dirty).asks = true) : Asked c (c.guarded next).1 := by
  unfold guarded
  split
  · exact asked_ask c next
  · rename_i clean
    rw [Guarded.firstEffect, if_neg clean] at asks
    cases next <;> cases asks

theorem asked_begin {notice : Except Failure Unit} {operation : Operation}
    (asks : (operation.effect c.state.editor.dirty notice).asks = true) :
    Asked c (c.begin notice operation).1 := by
  cases operation with
  | confirm => exact asked_ask c .nothing
  | create => exact asked_guarded c asks
  | openFile => exact asked_guarded c asks
  | save saveAs => cases asks
  | download => exact asked_guarded c asks
  | upload => cases asks
  | answer choice => cases choice <;> cases asks
  | changeMode mode => cases mode with
    | emergencyStop => cases notice <;> cases asks
    | _ => cases asks

theorem Asked.settle {c : Console} {p : Console × Progress} (h : Asked c p.1) (task : Nat) :
    Asked c (settle task p) := by
  unfold Asked at h ⊢
  rwa [settle_gate, settle_messages]

theorem asked_step {m : Move} (asks : (c.effect m).asks = true) : Asked c (c.step m) := by
  cases m with
  | start operation notice =>
      let c' : Console := { c with started := c.started + 1 }
      have began : Asked c' (c'.begin notice operation).1 := asked_begin c' asks
      exact Asked.settle (c := c) began (c.started + 1)
  | reply task wait answer =>
      simp only [effect] at asks
      split at asks
      · rw [Wait.effect_asks] at asks
        cases asks
      · cases asks
  | wake task expired =>
      simp only [effect] at asks
      split at asks
      · rw [Wait.effect_asks] at asks
        cases asks
      · cases asks
  | _ => cases asks

/-- The moves that ask are those whose effect says so. -/
theorem asks_iff (m : Move) : c.Asks m ↔ (c.effect m).asks = true := by
  constructor
  · intro asked
    by_contra quiet
    exact (unasked_step c (Bool.eq_false_iff.2 quiet)).not_asked asked
  · exact asked_step c

end

end Console
end RobotConsole
