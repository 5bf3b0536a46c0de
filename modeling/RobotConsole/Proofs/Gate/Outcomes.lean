import RobotConsole.Proofs.Gate.Coherence

/-!
# Outcomes of requests

A request that is accepted leaves the gate once, in one way, and ends once at most,
with the outcome that belongs to that way. `Stage` says how far a request has come.
Every move takes every request from its stage to the same or a later one, so the
answers, dismissals, deadlines and drops of one request never show in another one,
however they fall between a verdict and the moment when its operation goes on.
-/

namespace RobotConsole
namespace Console

/-! ## Stages -/

/-- How far a request has come in a console, with the ways in which it left the gate and the
ends to which its operation came. -/
inductive Stage (c : Console) (id : RequestId) :
    List Release -> List (Option (Except Failure Unit)) -> Prop where
  | unknown (early : ¬ c.Accepted id) : Stage c id [] []
  | outstanding (task : Nat)
      (accepted : c.Accepted id)
      (waits : c.request? task = some id)
      (taken : c.gate.outstanding = some id) : Stage c id [] []
  | answered (task : Nat) (way : Release) (verdict : Verdict)
      (accepted : c.Accepted id)
      (waits : c.request? task = some id)
      (leaves : way.verdict? = some verdict)
      (posted : c.gate.verdict? id = some verdict) : Stage c id [way] []
  /-- An operation may be dropped when its request has a verdict; it has no outcome then. -/
  | ended (way : Release) (outcome? : Option (Except Failure Unit))
      (accepted : c.Accepted id)
      (nobody : forall task, c.request? task ≠ some id)
      (agrees : outcome? = way.outcome? c.settings.gate.timeout ∨
        (outcome? = none ∧ way.verdict?.isSome)) : Stage c id [way] [outcome?]

section

variable {c c' : Console} {id : RequestId} {ways : List Release}
  {ends : List (Option (Except Failure Unit))}

theorem Stage.keep (h : c.Stage id ways ends)
    (settings : c'.settings = c.settings)
    (accepted : c'.Accepted id ↔ c.Accepted id)
    (requests : forall task, c'.request? task = some id ↔ c.request? task = some id)
    (outstanding : c'.gate.outstanding = some id ↔ c.gate.outstanding = some id)
    (verdict : c'.gate.verdict? id = c.gate.verdict? id) : c'.Stage id ways ends := by
  cases h with
  | unknown early => exact .unknown (fun late => early (accepted.1 late))
  | outstanding task before waits taken =>
      exact .outstanding task (accepted.2 before) ((requests task).2 waits) (outstanding.2 taken)
  | answered task way verdict' before waits leaves posted =>
      refine .answered task way verdict' (accepted.2 before) ((requests task).2 waits) leaves ?_
      rw [verdict, posted]
  | ended way outcome? before nobody agrees =>
      refine .ended way outcome? (accepted.2 before) ?_ ?_
      · intro task waits
        exact nobody task ((requests task).1 waits)
      · rw [settings]
        exact agrees

theorem Stage.of_waits (h : c.Awaited) {task : Nat} (waits : c.request? task = some id)
    (stage : c.Stage id ways ends) :
    (ways = [] ∧ ends = [] ∧ c.gate.outstanding = some id) ∨
      exists way verdict, ways = [way] ∧ ends = [] ∧ way.verdict? = some verdict ∧
        c.gate.verdict? id = some verdict := by
  cases stage with
  | unknown early => exact absurd (h.accepted task id waits) early
  | outstanding task' accepted waits' taken => exact .inl ⟨rfl, rfl, taken⟩
  | answered task' way verdict accepted waits' leaves posted =>
      exact .inr ⟨way, verdict, rfl, rfl, leaves, posted⟩
  | ended way outcome? accepted nobody => exact absurd waits (nobody task)

/-! ## What moves do to stages -/

theorem Stage.quiet (h : c.Stage id ways ends) (settings : c'.settings = c.settings)
    (gate : c'.gate = c.gate) (requests : forall other, c'.request? other = c.request? other) :
    c'.Stage id ways ends := by
  refine h.keep settings ?_ ?_ ?_ ?_
  · unfold Accepted
    rw [gate]
  · intro task
    rw [requests]
  · rw [gate]
  · rw [gate]

theorem Stage.asked (h : c.Stage id ways ends) {task : Nat} (settings : c'.settings = c.settings)
    (idle : c.request? task = none) (free : c.gate.outstanding = none)
    (gate : c'.gate = c.gate.accept)
    (requests : forall other, c'.request? other =
      if other = task then some c.gate.next else c.request? other) : c'.Stage id ways ends := by
  have issued : c'.gate.issued = c.gate.issued + 1 := by
    rw [gate]
    rfl
  by_cases new : id = c.gate.next
  · have early : ¬ c.Accepted id := by
      rw [new]
      exact c.not_accepted_next
    have taken : c'.gate.outstanding = some id := by
      rw [gate, new]
      rfl
    have waits : c'.request? task = some id := by
      rw [requests, if_pos rfl, new]
    have accepted : c'.Accepted id := by
      unfold Accepted
      rw [issued, new]
      exact ⟨Nat.succ_pos _, Nat.le_refl _⟩
    cases h with
    | unknown => exact .outstanding task accepted waits taken
    | outstanding task' before => exact absurd before early
    | answered task' way verdict before => exact absurd before early
    | ended way outcome? before => exact absurd before early
  · have older : id.number ≠ c.gate.issued + 1 := by
      intro same
      apply new
      cases id
      cases same
      rfl
    refine h.keep settings ?_ ?_ ?_ ?_
    · unfold Accepted
      rw [issued]
      omega
    · intro other
      rw [requests]
      split
      · rename_i same
        rw [same, idle]
        simp [Ne.symm new]
      · rfl
    · rw [gate, free]
      simp [Gate.accept, Ne.symm new]
    · rw [gate]
      rfl

theorem Stage.taken (h : c.Stage id ways ends) (awaited : c.Awaited) {other : RequestId}
    {verdict : Verdict} {way : Release} (settings : c'.settings = c.settings)
    (taken : c.gate.outstanding = some other) (leaves : way.verdict? = some verdict)
    (gate : c'.gate = c.gate.deliver other verdict)
    (requests : forall task, c'.request? task = c.request? task) :
    c'.Stage id (ways ++ ofRequest id [(other, way)]) ends := by
  by_cases mine : other = id
  · subst mine
    rcases awaited.waiter other taken with ⟨task, waits⟩
    have unanswered := (awaited.unanswered task other waits).1 taken
    rcases h.of_waits awaited waits with ⟨noWays, noEnds, _⟩ | ⟨_, _, _, _, _, posted⟩
    · rw [noWays, noEnds]
      have accepted : c'.Accepted other := by
        unfold Accepted
        rw [gate]
        exact awaited.accepted task other waits
      have here : ofRequest other [(other, way)] = [way] := by
        simp [ofRequest]
      rw [here]
      refine .answered task way verdict accepted ?_ leaves ?_
      · rw [requests, waits]
      · rw [gate, Gate.verdict?_deliver, unanswered, if_pos rfl]
        rfl
    · rw [unanswered] at posted
      cases posted
  · have elsewhere : ofRequest id [(other, way)] = [] := by
      simp [ofRequest, mine]
    rw [elsewhere, List.append_nil]
    refine h.keep settings ?_ ?_ ?_ ?_
    · unfold Accepted
      rw [gate]
      rfl
    · intro task
      rw [requests]
    · rw [gate, taken]
      simp [Gate.deliver, mine]
    · rw [gate, Gate.verdict?_deliver, if_neg (Ne.symm mine), Option.or_none]

theorem Stage.left (h : c.Stage id ways ends) (awaited : c.Awaited) {task : Nat}
    {other : RequestId} {way : Release} {outcome? : Option (Except Failure Unit)}
    (settings : c'.settings = c.settings) (waits : c.request? task = some other)
    (gate : c'.gate = c.gate.forget other)
    (requests : forall task', c'.request? task' =
      if task' = task then none else c.request? task')
    (agrees : c.gate.outstanding = some other ->
      way.outcome? c.settings.gate.timeout = outcome?)
    (collects : forall verdict, c.gate.verdict? other = some verdict ->
      outcome? = none ∨ outcome? = some verdict.outcome) :
    c'.Stage id
      (ways ++ ofRequest id (if c.gate.outstanding = some other then some (other, way)
        else none).toList)
      (ends ++ ofRequest id [(other, outcome?)]) := by
  by_cases mine : other = id
  · subst mine
    have accepted : c'.Accepted other := by
      unfold Accepted
      rw [gate]
      exact awaited.accepted task other waits
    have nobody (task' : Nat) : c'.request? task' ≠ some other := by
      rw [requests]
      split
      · simp
      · rename_i differs
        intro waits'
        exact differs (awaited.distinct task' task other waits' waits)
    have here : ofRequest other [(other, outcome?)] = [outcome?] := by
      simp [ofRequest]
    rw [here]
    rcases h.of_waits awaited waits with
      ⟨noWays, noEnds, taken⟩ | ⟨way', verdict, oneWay, noEnds, leaves, posted⟩
    · rw [noWays, noEnds, if_pos taken]
      have only : ofRequest other (some (other, way)).toList = [way] := by
        simp [ofRequest]
      rw [only]
      refine .ended way outcome? accepted nobody (.inl ?_)
      rw [settings, agrees taken]
    · have free : c.gate.outstanding ≠ some other := by
        intro taken
        rw [(awaited.unanswered task other waits).1 taken] at posted
        cases posted
      rw [oneWay, noEnds, if_neg free]
      refine .ended way' outcome? accepted nobody ?_
      rw [Release.outcome?_of_verdict leaves, leaves]
      rcases collects verdict posted with dropped | collected
      · exact .inr ⟨dropped, rfl⟩
      · exact .inl collected
  · have noWay : ofRequest id (if c.gate.outstanding = some other then some (other, way)
        else none).toList = [] := by
      split <;> simp [ofRequest, mine]
    have noEnd : ofRequest id [(other, outcome?)] = [] := by
      simp [ofRequest, mine]
    rw [noWay, noEnd, List.append_nil, List.append_nil]
    refine h.keep settings ?_ ?_ ?_ ?_
    · unfold Accepted
      rw [gate]
      rfl
    · intro task'
      rw [requests]
      split
      · rename_i same
        rw [same, waits]
        simp [mine]
      · rfl
    · rw [gate, Gate.outstanding_forget]
      split
      · rename_i taken
        rw [taken]
        simp [mine]
      · rfl
    · rw [gate, Gate.verdict?_forget, if_neg (Ne.symm mine)]

/-- A move takes a request to the stage that fits what is observed of it. -/
theorem Stage.step (h : c.Stage id ways ends) (coherent : c.Coherent) (m : Move) :
    (c.step m).Stage id (ways ++ ofRequest id (c.release? m).toList)
      (ends ++ ofRequest id (c.ending? m).toList) := by
  have settings := step_settings c m
  have nothing {α : Type} (observed : List α) :
      observed ++ ofRequest id (none : Option (RequestId × α)).toList = observed := by
    simp [ofRequest]
  cases coherent.gateStep m with
  | quiet gate requests acceptance release ending =>
      rw [release, ending, nothing, nothing]
      exact h.quiet settings gate requests
  | asked task idle free gate requests acceptance release ending =>
      rw [release, ending, nothing, nothing]
      exact h.asked settings idle free gate requests
  | taken other verdict way taken leaves gate requests acceptance release ending =>
      rw [release, ending, nothing]
      exact h.taken coherent.awaited settings taken leaves gate requests
  | left task other way outcome? waits gate requests acceptance release ending agrees collects =>
      rw [release, ending]
      exact h.left coherent.awaited settings waits gate requests agrees collects

end

theorem stage_play (settings : Settings) (hasLogDisplay : Bool) (moves : List Move)
    (id : RequestId) :
    ((fresh settings hasLogDisplay).play moves).Stage id
      ((fresh settings hasLogDisplay).releases moves id)
      ((fresh settings hasLogDisplay).endings moves id) := by
  induction moves using List.reverseRecOn with
  | nil =>
      refine .unknown ?_
      rintro ⟨positive, bound⟩
      exact absurd bound (Nat.not_le_of_gt positive)
  | append_singleton moves m ih =>
      rw [play_snoc, releases_snoc, endings_snoc]
      exact ih.step (coherent_play settings hasLogDisplay moves) m

/-! ## What the calls say -/

/-- The calls of a console say what becomes of the request that is outstanding, and those that
find it to be another one do no more than write a message. -/
structure Calls (c : Console) : Prop where
  leaves : forall m id, (exists way, c.release? m = some (id, way)) ↔
    c.gate.outstanding = some id ∧ (c.step m).gate.outstanding ≠ some id
  resolve : forall resolution, (c.resolve resolution).2 = true ↔
    exists id, c.release? (.resolve resolution) = some (id, .answered resolution)
  resolveRequest : forall id resolution, (c.resolveRequest id resolution).2 = true ↔
    c.release? (.resolveRequest id resolution) = some (id, .answered resolution)
  dismiss : c.dismiss.2 = true ↔ exists id, c.release? .dismiss = some (id, .dismissed)
  stale : forall id resolution, c.gate.outstanding ≠ some id ->
    (c.resolveRequest id resolution).2 = false ∧
      exists message, (c.resolveRequest id resolution).1 = c.say message
  busy : forall id, c.gate.outstanding = some id ->
    c.requestConfirmation.2 = .error .busy ∧
      exists message, c.requestConfirmation.1 = c.say message

theorem Coherent.calls {c : Console} (h : c.Coherent) : c.Calls := by
  constructor
  · intro m id
    constructor
    · rintro ⟨way, released⟩
      have taken := (h.gateStep m).outstanding_of_release released
      refine ⟨taken.1, ?_⟩
      rw [taken.2]
      simp
    · rintro ⟨taken, leaves⟩
      cases released : c.release? m with
      | none => exact absurd ((h.gateStep m).outstanding_stays released taken) leaves
      | some entry =>
          rcases entry with ⟨other, way⟩
          have taken' := ((h.gateStep m).outstanding_of_release released).1
          have same : other = id := Option.some.inj (taken'.symm.trans taken)
          exact ⟨way, by rw [same]⟩
  · intro resolution
    unfold Console.resolve
    cases taken : c.gate.outstanding <;> simp [release?, taken, releaseOf?, effect]
  · intro id resolution
    unfold Console.resolveRequest
    rw [release?_resolveRequest]
    split <;> simp
  · unfold Console.dismiss
    cases taken : c.gate.outstanding <;> simp [release?, taken, releaseOf?]
  · intro id resolution other
    unfold Console.resolveRequest
    rw [if_neg other]
    exact ⟨rfl, _, rfl⟩
  · intro id taken
    unfold requestConfirmation
    rw [taken]
    exact ⟨rfl, _, rfl⟩

/-! ## What an operation that waits comes to -/

/-- What the next move of an operation that waits for a request comes to, with the ways in which
the request left the gate. -/
structure Waiter (c : Console) (task : Nat) (id : RequestId) (ways : List Release) : Prop where
  outstanding : c.gate.outstanding = some id ->
    ways = [] ∧ c.wake task false = c ∧
      c.release? (.wake task true) = some (id, .expired) ∧
      c.ending? (.wake task true) =
        some (id, some (.error (.timedOut c.settings.gate.timeout)))
  taken : c.gate.outstanding ≠ some id -> exists way outcome,
    ways = [way] ∧ way.outcome? c.settings.gate.timeout = some outcome ∧
      forall expired, c.ending? (.wake task expired) = some (id, some outcome)
  /-- The outcome is the result of the operation, unless it goes on to something else. -/
  told : forall next expired outcome, c.wait? task = some (.confirmation id next) ->
    c.ending? (.wake task expired) = some (id, some outcome) ->
    next = .nothing ∨ outcome ≠ .ok () ->
    (c.wake task expired).journal.head? = some (.ended task (outcome.map fun _ => none))
  dropped : c.ending? (.drop task) = some (id, none) ∧
    (c.step (.drop task)).gate.outstanding =
      if c.gate.outstanding = some id then none else c.gate.outstanding

section

variable {c : Console} {task : Nat} {id : RequestId}

theorem ending?_wake (waits : c.request? task = some id) (expired : Bool) :
    c.ending? (.wake task expired) =
      ((c.outcome? id expired).map Prod.snd).map fun outcome => (id, some outcome) := by
  rcases collected?_of_request waits expired with ⟨next, collected⟩
  simp only [ending?]
  rw [collected, Option.map_map]
  rfl

theorem ended_of_wake {next : Guarded} {expired : Bool} {outcome : Except Failure Unit}
    (waiting : c.wait? task = some (.confirmation id next))
    (ending : c.ending? (.wake task expired) = some (id, some outcome))
    (last : next = .nothing ∨ outcome ≠ .ok ()) :
    (c.wake task expired).journal.head? = some (.ended task (outcome.map fun _ => none)) := by
  have collected : c.collected? task expired = some (id, next, outcome) := by
    simp only [ending?, Option.map_eq_some_iff] at ending
    rcases ending with ⟨⟨id', next', outcome'⟩, collected, same⟩
    cases same
    have waiting' := (wake_of_collected c collected).1
    rw [waiting] at waiting'
    cases waiting'
    exact collected
  rcases wake_of_collected c collected with ⟨_, message, _, woken⟩
  rw [woken]
  cases outcome with
  | error failure => rfl
  | ok done =>
      have nothing : next = .nothing := last.resolve_right (fun fails => fails rfl)
      rw [nothing]
      rfl

theorem Stage.waiter {ways : List Release} {ends : List (Option (Except Failure Unit))}
    (stage : c.Stage id ways ends) (h : c.Coherent) (waits : c.request? task = some id) :
    c.Waiter task id ways := by
  have endings (expired : Bool) := ending?_wake waits expired
  have outcomes (expired : Bool) := c.outcome?_snd id expired
  have unanswered := h.awaited.unanswered task id waits
  constructor
  · intro taken
    rcases stage.of_waits h.awaited waits with ⟨noWays, _⟩ | ⟨_, _, _, _, _, posted⟩
    · refine ⟨noWays, ?_, ?_, ?_⟩
      · apply wake_of_not_collected
        rcases collected?_of_request waits false with ⟨next, collected⟩
        rw [collected, outcomes, unanswered.1 taken]
        rfl
      · simp [release?, taken, releaseOf?, waits]
      · rw [endings, outcomes, unanswered.1 taken]
        rfl
    · rw [unanswered.1 taken] at posted
      cases posted
  · intro free
    rcases stage.of_waits h.awaited waits with
      ⟨_, _, taken⟩ | ⟨way, verdict, oneWay, _, leaves, posted⟩
    · exact absurd taken free
    · refine ⟨way, verdict.outcome, oneWay, Release.outcome?_of_verdict leaves _, ?_⟩
      intro expired
      rw [endings, outcomes, posted]
      rfl
  · intro next expired outcome waiting ending last
    exact ended_of_wake waiting ending last
  · constructor
    · simp [ending?, waits]
    · rw [step_gate]
      simp only [outcomeOf, waits, Option.elim, releaseRequest_gate]
      exact c.gate.outstanding_forget id

end

/-- In every console that a run reaches, each request is at a stage that fits what was observed
of it: it left the gate in one way at most, and its operation came to one end at most, with the
outcome of that way and none if it was dropped. An operation that waits has the outcome of the
way in which its request left the gate, whether its time is up or not, and runs out of time only
while its request is outstanding. Calls that answer say true exactly when they take a request,
and those that find another request, or none, take nothing. -/
theorem request_ends_as_it_left (settings : Settings) (hasLogDisplay : Bool)
    (moves : List Move) :
    let start := fresh settings hasLogDisplay
    let c := start.play moves
    c.settings = settings ∧
    (forall id, id ∈ start.acceptances moves ↔ c.Accepted id) ∧
    (forall id, c.Stage id (start.releases moves id) (start.endings moves id)) ∧
    (forall task id, c.request? task = some id ->
      c.Waiter task id (start.releases moves id)) ∧
    c.Calls := by
  intro start c
  have coherent : c.Coherent := coherent_play settings hasLogDisplay moves
  refine ⟨?_, ?_, ?_, ?_, ?_⟩
  · exact play_settings start moves
  · intro id
    exact mem_acceptances settings hasLogDisplay moves id
  · intro id
    exact stage_play settings hasLogDisplay moves id
  · intro task id waits
    exact (stage_play settings hasLogDisplay moves id).waiter coherent waits
  · exact coherent.calls

end Console
end RobotConsole
