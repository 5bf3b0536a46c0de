import RobotConsole.Proofs.Gate.Dialog

/-!
# Requests from one move to the next

A move does one of four things with the requests: nothing, a new one is accepted, the
outstanding one is taken with a verdict, or an operation leaves its request behind.
`GateStep` lists them, each with all that it does to the gate and to the operations
that wait, and with all that is observed.
-/

namespace RobotConsole
namespace Console

section

variable {c : Console}

/-! ## What a move does to the gate -/

theorem resolve_gate (resolution : Resolution) :
    (c.resolve resolution).1.gate = c.gate.answer resolution := by
  unfold Console.resolve Gate.answer
  split <;> simp_all [Console.deliver]

theorem ifFree_gate : c.ifFree.gate = c.gate.acceptIfFree := by
  unfold ifFree Gate.acceptIfFree
  split <;> rfl

theorem enact_gate (e : Effect) :
    (c.enact e).gate =
      e.answer.elim (if e.asks then c.gate.acceptIfFree else c.gate)
        (if e.asks then c.gate.acceptIfFree else c.gate).answer := by
  rcases e with ⟨_ | _, _ | change, _ | mode, _ | answer⟩ <;>
    simp [Console.enact, resolve_gate, ifFree_gate]

@[simp] theorem releaseRequest_gate (id : RequestId) :
    (c.releaseRequest id).gate = c.gate.forget id := by
  unfold Console.releaseRequest
  dsimp only
  split <;> rfl

/-! ## Who waits for a request -/

theorem request?_of_wait {task : Nat} {wait : Wait} (h : c.wait? task = some wait) :
    c.request? task = wait.request? := by
  unfold request?
  rw [h]
  rfl

theorem waiting_of_request {task : Nat} {id : RequestId} (h : c.request? task = some id) :
    exists next, c.wait? task = some (.confirmation id next) := by
  unfold request? at h
  rcases Option.bind_eq_some_iff.1 h with ⟨wait, waiting, request⟩
  cases wait with
  | confirmation id' next =>
      cases request
      exact ⟨next, waiting⟩
  | _ => cases request

theorem collected?_of_request {task : Nat} {id : RequestId} (h : c.request? task = some id)
    (expired : Bool) :
    exists next, c.collected? task expired =
      ((c.outcome? id expired).map Prod.snd).map fun outcome => (id, next, outcome) := by
  rcases waiting_of_request h with ⟨next, waiting⟩
  refine ⟨next, ?_⟩
  unfold collected?
  rw [waiting, Option.map_map]
  rfl

theorem request?_start (numbered : c.Numbered) (operation : Operation)
    (notice : Except Failure Unit) (other : Nat) :
    (c.step (.start operation notice)).request? other =
      if other = c.started + 1 then c.acceptance? (.start operation notice)
      else c.request? other := by
  unfold request?
  rw [wait?_step c numbered]
  simp only [movedOn?]
  split
  · exact firstWait?_request c notice operation
  · rfl

theorem request?_reply (numbered : c.Numbered) (task : Nat) (wait : Wait) (answer : wait.Reply)
    (other : Nat) : (c.step (.reply task wait answer)).request? other = c.request? other := by
  unfold request?
  rw [wait?_step c numbered]
  simp only [movedOn?]
  by_cases waiting : wait.isCall ∧ c.wait? task = some wait
  · rw [if_pos waiting]
    dsimp only
    split
    · rename_i same
      have call : wait.request? = none := by
        cases wait <;> first | rfl | cases waiting.1
      rw [same, waiting.2]
      exact (wait.next?_request answer).trans call.symm
    · rfl
  · rw [if_neg waiting]

theorem request?_wake (numbered : c.Numbered) (task : Nat) (expired : Bool) (other : Nat) :
    (c.step (.wake task expired)).request? other =
      if other = task ∧ (c.collected? task expired).isSome then none else c.request? other := by
  unfold request?
  rw [wait?_step c numbered]
  simp only [movedOn?]
  cases c.collected? task expired with
  | none => simp
  | some collected =>
      by_cases same : other = task
      · simpa [same] using Wait.next?_request (.confirmation collected.1 collected.2.1) _
      · simp [same]

theorem request?_drop (task other : Nat) :
    (c.step (.drop task)).request? other = if other = task then none else c.request? other := by
  unfold request?
  rw [step, wait?_drop]
  split <;> rfl

theorem request?_of_not_moved (numbered : c.Numbered) {m : Move} (h : c.movedOn? m = none)
    (other : Nat) : (c.step m).request? other = c.request? other := by
  unfold request?
  rw [wait?_step c numbered, h]

end

/-! ## The four kinds of moves -/

/-- An operation that waits for the request that is outstanding has no verdict to find. -/
def Unanswered (c : Console) : Prop :=
  forall id, c.gate.outstanding = some id -> c.gate.verdict? id = none

inductive GateStep (c : Console) (m : Move) : Prop where
  | quiet
      (gate : (c.step m).gate = c.gate)
      (requests : forall other, (c.step m).request? other = c.request? other)
      (acceptance : c.acceptance? m = none)
      (release : c.release? m = none)
      (ending : c.ending? m = none)
  | asked (task : Nat)
      (idle : c.request? task = none)
      (free : c.gate.outstanding = none)
      (gate : (c.step m).gate = c.gate.accept)
      (requests : forall other, (c.step m).request? other =
        if other = task then some c.gate.next else c.request? other)
      (acceptance : c.acceptance? m = some c.gate.next)
      (release : c.release? m = none)
      (ending : c.ending? m = none)
  | taken (id : RequestId) (verdict : Verdict) (way : Release)
      (outstanding : c.gate.outstanding = some id)
      (leaves : way.verdict? = some verdict)
      (gate : (c.step m).gate = c.gate.deliver id verdict)
      (requests : forall other, (c.step m).request? other = c.request? other)
      (acceptance : c.acceptance? m = none)
      (release : c.release? m = some (id, way))
      (ending : c.ending? m = none)
  /-- The request is taken from the gate on the way if it was outstanding, and its outcome is that
  of its verdict otherwise, unless it is dropped. -/
  | left (task : Nat) (id : RequestId) (way : Release) (outcome? : Option (Except Failure Unit))
      (waits : c.request? task = some id)
      (gate : (c.step m).gate = c.gate.forget id)
      (requests : forall other, (c.step m).request? other =
        if other = task then none else c.request? other)
      (acceptance : c.acceptance? m = none)
      (release : c.release? m = if c.gate.outstanding = some id then some (id, way) else none)
      (ending : c.ending? m = some (id, outcome?))
      (agrees : c.gate.outstanding = some id ->
        way.outcome? c.settings.gate.timeout = outcome?)
      (collects : forall verdict, c.gate.verdict? id = some verdict ->
        outcome? = none ∨ outcome? = some verdict.outcome)

section

variable {c : Console}

theorem release?_of_own {m : Move} {id : RequestId} {way : Release}
    (own : forall other, c.releaseOf? other m = if other = id then some way else none) :
    c.release? m = if c.gate.outstanding = some id then some (id, way) else none := by
  unfold release?
  cases c.gate.outstanding with
  | none => simp
  | some other =>
      by_cases same : other = id
      · simp [own, same]
      · simp [own, same]

theorem release?_drop {task : Nat} {id : RequestId} (waits : c.request? task = some id) :
    c.release? (.drop task) =
      if c.gate.outstanding = some id then some (id, .dropped) else none := by
  apply release?_of_own
  intro other
  simp only [releaseOf?, waits, Option.some.injEq, eq_comm]

theorem release?_resolveRequest (id : RequestId) (resolution : Resolution) :
    c.release? (.resolveRequest id resolution) =
      if c.gate.outstanding = some id then some (id, .answered resolution) else none := by
  apply release?_of_own
  intro other
  simp only [releaseOf?, eq_comm]

/-- What a move does that lets nobody ask and lets no request end is to answer at most. -/
theorem gateStep_of_answer {m : Move}
    (gate : (c.step m).gate = (c.effect m).answer.elim c.gate c.gate.answer)
    (requests : forall other, (c.step m).request? other = c.request? other)
    (asks : (c.effect m).asks = false)
    (releaseOf : forall id, c.releaseOf? id m = (c.effect m).answer.map .answered)
    (ending : c.ending? m = none) : c.GateStep m := by
  have acceptance : c.acceptance? m = none := by
    simp [acceptance?, asks]
  cases answer : (c.effect m).answer with
  | none =>
      rw [answer] at gate
      refine .quiet gate requests acceptance ?_ ending
      simp [release?, releaseOf, answer]
  | some resolution =>
      rw [answer] at gate
      cases taken : c.gate.outstanding with
      | none =>
          refine .quiet ?_ requests acceptance ?_ ending
          · rw [gate]
            simp [Gate.answer, taken]
          · simp [release?, taken]
      | some id =>
          refine .taken id (.resolved resolution) (.answered resolution) taken rfl ?_ requests
            acceptance ?_ ending
          · rw [gate]
            simp [Gate.answer, taken]
          · simp [release?, taken, releaseOf, answer]

theorem gateStep_start (numbered : c.Numbered) (operation : Operation)
    (notice : Except Failure Unit) : c.GateStep (.start operation notice) := by
  have gate := step_gate c (.start operation notice)
  simp only [outcomeOf, enact_gate] at gate
  have idle : c.request? (c.started + 1) = none := by
    unfold request?
    rw [numbered _ (Nat.lt_succ_self _)]
    rfl
  have requests := request?_start numbered operation notice
  by_cases asks : (c.effect (.start operation notice)).asks = true
  · have answer : (c.effect (.start operation notice)).answer = none :=
      Operation.effect_answer asks
    have release : c.release? (.start operation notice) = none := by
      simp [release?, releaseOf?, answer]
    by_cases free : c.gate.outstanding = none
    · have acceptance : c.acceptance? (.start operation notice) = some c.gate.next := by
        simp [acceptance?, asks, free]
      refine .asked (c.started + 1) idle free ?_ ?_ acceptance release rfl
      · rw [gate, answer]
        simp [asks, Gate.acceptIfFree, free]
      · intro other
        rw [requests, acceptance]
    · have acceptance : c.acceptance? (.start operation notice) = none := by
        simp [acceptance?, free]
      refine .quiet ?_ ?_ acceptance release rfl
      · rw [gate, answer]
        simp [Gate.acceptIfFree, free]
      · intro other
        rw [requests, acceptance]
        split
        · rename_i same
          rw [same, idle]
        · rfl
  · have quiet : (c.effect (.start operation notice)).asks = false := by
      simpa using asks
    refine gateStep_of_answer ?_ ?_ quiet (fun _ => rfl) rfl
    · rw [gate, quiet]
      rfl
    · intro other
      rw [requests]
      split
      · rename_i same
        rw [same, idle]
        simp [acceptance?, quiet]
      · rfl

theorem gateStep_reply (numbered : c.Numbered) (task : Nat) (wait : Wait)
    (answer : wait.Reply) : c.GateStep (.reply task wait answer) := by
  have asks : (c.effect (.reply task wait answer)).asks = false := by
    simp only [effect]
    split
    · exact Wait.effect_asks _ wait answer
    · rfl
  refine gateStep_of_answer ?_ (request?_reply numbered task wait answer) asks
    (fun _ => rfl) rfl
  rw [step_gate]
  simp only [outcomeOf, enact_gate, asks]
  rfl

theorem gateStep_wake_of_not_collected {task : Nat} {expired : Bool}
    (h : c.collected? task expired = none) : c.GateStep (.wake task expired) := by
  have same : c.step (.wake task expired) = c := wake_of_not_collected c h
  refine .quiet (by rw [same]) (by simp [same]) ?_ ?_ ?_
  · simp [acceptance?, effect, h]
  · cases taken : c.gate.outstanding with
    | none => simp [release?, taken]
    | some id =>
        have waitsNot : ¬ (c.request? task = some id ∧ expired = true) := by
          intro waits
          rcases collected?_of_request waits.1 expired with ⟨next, collected⟩
          rw [h, outcome?_snd, waits.2] at collected
          cases verdict : c.gate.verdict? id <;> simp [verdict] at collected
        simp [release?, taken, releaseOf?, waitsNot]
  · simp [ending?, h]

theorem gateStep_wake_of_collected (numbered : c.Numbered) (unanswered : c.Unanswered)
    {task : Nat} {expired : Bool} {id : RequestId} {next : Guarded}
    {outcome : Except Failure Unit}
    (h : c.collected? task expired = some (id, next, outcome)) :
    c.GateStep (.wake task expired) := by
  rcases wake_of_collected c h with ⟨waiting, message, found, _⟩
  have waits : c.request? task = some id := request?_of_wait waiting
  have effect : c.effect (.wake task expired) =
      Wait.effect c.settings.editor (.confirmation id next) outcome := by
    simp [Console.effect, h]
  have asks : (c.effect (.wake task expired)).asks = false := by
    rw [effect]
    exact Wait.effect_asks _ _ _
  have answer : (c.effect (.wake task expired)).answer = none := by
    rw [effect]
    exact Wait.effect_confirmation _ id next outcome
  have outcomes := c.outcome?_snd id expired
  rw [found] at outcomes
  -- Without a verdict the operation goes on because its time is up.
  have expires : c.gate.outstanding = some id ->
      expired = true ∧ outcome = .error (.timedOut c.settings.gate.timeout) := by
    intro taken
    rw [unanswered id taken] at outcomes
    cases expired with
    | false => cases outcomes
    | true => exact ⟨rfl, by simpa using outcomes⟩
  refine .left task id .expired (some outcome) waits ?_ ?_ ?_ ?_ ?_ ?_ ?_
  · rw [step_gate]
    simp [outcomeOf, h, enact_gate, asks, answer]
  · intro other
    rw [request?_wake numbered, h]
    simp
  · simp [acceptance?, asks]
  · cases taken : c.gate.outstanding with
    | none => simp [release?, taken]
    | some other =>
        by_cases same : other = id
        · subst same
          simp [release?, taken, releaseOf?, waits, (expires taken).1]
        · have differs : id ≠ other := fun h => same h.symm
          simp [release?, taken, releaseOf?, waits, same, differs]
  · simp [ending?, h]
  · intro taken
    rw [(expires taken).2]
    rfl
  · intro verdict verdictIs
    rw [verdictIs] at outcomes
    right
    simpa using outcomes

theorem gateStep_drop (task : Nat) : c.GateStep (.drop task) := by
  have requests := request?_drop (c := c) task
  have gate := step_gate c (.drop task)
  cases waits : c.request? task with
  | none =>
      refine .quiet ?_ ?_ (by simp [acceptance?, effect]) ?_ (by simp [ending?, waits])
      · rw [gate]
        simp [outcomeOf, waits]
      · intro other
        rw [requests]
        split
        · rename_i same
          rw [same, waits]
        · rfl
      · cases taken : c.gate.outstanding <;> simp [release?, taken, releaseOf?, waits]
  | some id =>
      refine .left task id .dropped none waits ?_ requests (by simp [acceptance?, effect])
        (release?_drop waits) (by simp [ending?, waits]) (fun _ => rfl) (fun _ _ => .inl rfl)
      rw [gate]
      simp [outcomeOf, waits]

theorem gateStep_resolveRequest (numbered : c.Numbered) (id : RequestId)
    (resolution : Resolution) : c.GateStep (.resolveRequest id resolution) := by
  have requests := request?_of_not_moved numbered (m := .resolveRequest id resolution) rfl
  have gate : (c.step (.resolveRequest id resolution)).gate =
      if c.gate.outstanding = some id then c.gate.deliver id (.resolved resolution)
      else c.gate := by
    simp only [step, resolveRequest]
    split <;> rfl
  have release := release?_resolveRequest (c := c) id resolution
  by_cases taken : c.gate.outstanding = some id
  · rw [if_pos taken] at gate release
    exact .taken id (.resolved resolution) (.answered resolution) taken rfl gate requests
      (by simp [acceptance?, effect]) release rfl
  · rw [if_neg taken] at gate release
    exact .quiet gate requests (by simp [acceptance?, effect]) release rfl

theorem gateStep_dismiss (numbered : c.Numbered) : c.GateStep .dismiss := by
  have requests := request?_of_not_moved numbered (m := .dismiss) rfl
  cases taken : c.gate.outstanding with
  | none =>
      refine .quiet ?_ requests (by simp [acceptance?, effect]) (by simp [release?, taken]) rfl
      simp [step, dismiss, taken]
  | some id =>
      refine .taken id .dismissed .dismissed taken rfl ?_ requests (by simp [acceptance?, effect])
        (by simp [release?, taken, releaseOf?]) rfl
      simp [step, dismiss, taken, deliver]

theorem gateStep (numbered : c.Numbered) (unanswered : c.Unanswered) (m : Move) :
    c.GateStep m := by
  have plain {m : Move} (moved : c.movedOn? m = none) (gate : (c.step m).gate = c.gate)
      (asks : (c.effect m).asks = false) (answer : (c.effect m).answer = none)
      (releaseOf : forall id, c.releaseOf? id m = (c.effect m).answer.map .answered)
      (ending : c.ending? m = none) : c.GateStep m := by
    refine gateStep_of_answer ?_ (request?_of_not_moved numbered moved) asks releaseOf ending
    rw [gate, answer]
    rfl
  cases m with
  | start operation notice => exact gateStep_start numbered operation notice
  | reply task wait answer => exact gateStep_reply numbered task wait answer
  | wake task expired => cases found : c.collected? task expired with
    | none => exact gateStep_wake_of_not_collected found
    | some collected => exact gateStep_wake_of_collected numbered unanswered found
  | drop task => exact gateStep_drop task
  | resolve resolution =>
      exact gateStep_of_answer (resolve_gate resolution) (request?_of_not_moved numbered rfl) rfl
        (fun _ => rfl) rfl
  | resolveRequest id resolution => exact gateStep_resolveRequest numbered id resolution
  | dismiss => exact gateStep_dismiss numbered
  | edit content => exact plain rfl rfl rfl rfl (fun _ => rfl) rfl
  | setAlliance alliance =>
      exact plain rfl (by cases alliance <;> rfl) rfl rfl (fun _ => rfl) rfl
  | apply now event =>
      refine plain rfl ?_ rfl rfl (fun _ => rfl) rfl
      cases event with
      | telemetry batch => simp [step, apply, applyBatch]
      | log event => simp [step, apply, applyLog]
  | tick now => exact plain rfl (by simp [step, tick]) rfl rfl (fun _ => rfl) rfl

/-! ## The request that is outstanding -/

theorem GateStep.outstanding_stays {m : Move} (h : c.GateStep m) (kept : c.release? m = none)
    {id : RequestId} (taken : c.gate.outstanding = some id) :
    (c.step m).gate.outstanding = some id := by
  cases h with
  | quiet gate => rw [gate, taken]
  | asked task idle free =>
      rw [free] at taken
      cases taken
  | taken id' verdict way outstanding leaves gate requests acceptance release =>
      rw [release] at kept
      cases kept
  | left task id' way outcome? waits gate requests acceptance release =>
      have other : c.gate.outstanding ≠ some id' := by
        intro mine
        rw [kept, if_pos mine] at release
        cases release
      rw [gate, Gate.outstanding_forget, if_neg other, taken]

theorem GateStep.outstanding_of_release {m : Move} (h : c.GateStep m) {id : RequestId}
    {way : Release} (released : c.release? m = some (id, way)) :
    c.gate.outstanding = some id ∧ (c.step m).gate.outstanding = none := by
  cases h with
  | quiet gate requests acceptance release =>
      rw [release] at released
      cases released
  | asked task idle free gate requests acceptance release =>
      rw [release] at released
      cases released
  | taken id' verdict way' outstanding leaves gate requests acceptance release =>
      rw [release] at released
      cases released
      rw [gate]
      exact ⟨outstanding, rfl⟩
  | left task id' way' outcome? waits gate requests acceptance release =>
      rw [release] at released
      split at released
      · rename_i mine
        cases released
        rw [gate, Gate.outstanding_forget, if_pos mine]
        exact ⟨mine, rfl⟩
      · cases released

theorem GateStep.acceptance_iff {m : Move} (h : c.GateStep m) (id : RequestId) :
    c.acceptance? m = some id ↔
      c.gate.outstanding ≠ some id ∧ (c.step m).gate.outstanding = some id := by
  cases h with
  | quiet gate requests acceptance =>
      rw [acceptance, gate]
      simp
  | asked task idle free gate requests acceptance =>
      rw [acceptance, gate, free]
      simp [Gate.accept]
  | taken id' verdict way outstanding leaves gate requests acceptance =>
      rw [acceptance, gate]
      simp [Gate.deliver]
  | left task id' way outcome? waits gate requests acceptance =>
      rw [acceptance, gate, Gate.outstanding_forget]
      split <;> simp

end

end Console
end RobotConsole
