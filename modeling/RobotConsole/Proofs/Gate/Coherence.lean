import Mathlib.Data.List.Basic
import RobotConsole.Proofs.Gate.Step

/-!
# Coherence of gate, dialog and operations

The gate, the dialog and the operations in progress are written in different places.
In every console that a run reaches they agree about the requests: the dialog shows
the one that is outstanding, and an operation that waits for a request either waits
for that one or finds a verdict. Since later requests have greater numbers, what ends
an operation never touches a request that came after its own.
-/

namespace RobotConsole
namespace Console

/-! ## The invariant -/

/-- A request that was accepted at some time; requests are numbered from one. -/
def Accepted (c : Console) (id : RequestId) : Prop :=
  0 < id.number ∧ id.number ≤ c.gate.issued

/-- The gate and the operations that wait for requests agree. -/
structure Awaited (c : Console) : Prop where
  waiter : forall id, c.gate.outstanding = some id -> exists task, c.request? task = some id
  accepted : forall task id, c.request? task = some id -> c.Accepted id
  distinct : forall first second id, c.request? first = some id -> c.request? second = some id ->
    first = second
  unanswered : forall task id, c.request? task = some id ->
    (c.gate.outstanding = some id ↔ c.gate.verdict? id = none)
  posted : forall id verdict, c.gate.verdict? id = some verdict -> id.number ≤ c.gate.issued

structure Coherent (c : Console) : Prop where
  numbered : c.Numbered
  shown : c.Shown
  awaited : c.Awaited

section

variable {c c' : Console}

theorem Awaited.unanswered_of_outstanding (h : c.Awaited) : c.Unanswered := by
  intro id taken
  rcases h.waiter id taken with ⟨task, waits⟩
  exact (h.unanswered task id waits).1 taken

theorem Awaited.accepted_of_outstanding (h : c.Awaited) {id : RequestId}
    (taken : c.gate.outstanding = some id) : c.Accepted id := by
  rcases h.waiter id taken with ⟨task, waits⟩
  exact h.accepted task id waits

theorem not_accepted_next (c : Console) : ¬ c.Accepted c.gate.next := by
  intro accepted
  exact Nat.lt_irrefl _ accepted.2

theorem Awaited.next_ne (h : c.Awaited) {task : Nat} {id : RequestId}
    (waits : c.request? task = some id) : id ≠ c.gate.next := by
  intro same
  have accepted := h.accepted task id waits
  rw [same] at accepted
  exact c.not_accepted_next accepted

theorem Awaited.verdict?_next (h : c.Awaited) : c.gate.verdict? c.gate.next = none := by
  cases found : c.gate.verdict? c.gate.next with
  | none => rfl
  | some verdict => exact absurd (h.posted _ verdict found) (Nat.lt_irrefl _)

/-! ## What moves keep -/

theorem Awaited.quiet (h : c.Awaited) (gate : c'.gate = c.gate)
    (requests : forall other, c'.request? other = c.request? other) : c'.Awaited := by
  constructor
  · simpa [gate, requests] using h.waiter
  · simpa [Accepted, gate, requests] using h.accepted
  · simpa [requests] using h.distinct
  · simpa [gate, requests] using h.unanswered
  · simpa [gate] using h.posted

theorem Awaited.asked (h : c.Awaited) {task : Nat} (free : c.gate.outstanding = none)
    (gate : c'.gate = c.gate.accept)
    (requests : forall other, c'.request? other =
      if other = task then some c.gate.next else c.request? other) : c'.Awaited := by
  have mine : c'.request? task = some c.gate.next := by
    rw [requests, if_pos rfl]
  -- Whoever waits now waits for the new request, or waited for an older one before.
  have waits {other : Nat} {id : RequestId} (waiting : c'.request? other = some id) :
      (other = task ∧ id = c.gate.next) ∨ c.request? other = some id := by
    rw [requests] at waiting
    split at waiting
    · rename_i same
      cases waiting
      exact .inl ⟨same, rfl⟩
    · exact .inr waiting
  constructor
  · intro id taken
    rw [gate] at taken
    cases taken
    exact ⟨task, mine⟩
  · intro other id waiting
    unfold Accepted
    rw [gate]
    rcases waits waiting with ⟨_, same⟩ | before
    · rw [same]
      exact ⟨Nat.succ_pos _, Nat.le_refl _⟩
    · have accepted := h.accepted other id before
      exact ⟨accepted.1, Nat.le_succ_of_le accepted.2⟩
  · intro first second id waitsFirst waitsSecond
    rcases waits waitsFirst with ⟨isTask, isNext⟩ | before
    · rcases waits waitsSecond with ⟨isTask', _⟩ | before'
      · rw [isTask, isTask']
      · exact absurd isNext (h.next_ne before')
    · rcases waits waitsSecond with ⟨_, isNext⟩ | before'
      · exact absurd isNext (h.next_ne before)
      · exact h.distinct first second id before before'
  · intro other id waiting
    rw [gate, Gate.verdict?_accept]
    rcases waits waiting with ⟨_, isNext⟩ | before
    · rw [isNext]
      exact ⟨fun _ => h.verdict?_next, fun _ => rfl⟩
    · have older : c.gate.accept.outstanding ≠ some id := by
        intro taken
        exact h.next_ne before (Option.some.inj taken).symm
      have answered := h.unanswered other id before
      rw [free] at answered
      constructor
      · intro taken
        exact absurd taken older
      · intro found
        exact absurd (answered.2 found) (by simp)
  · intro id verdict found
    rw [gate] at found ⊢
    exact Nat.le_succ_of_le (h.posted id verdict found)

theorem Awaited.taken (h : c.Awaited) {id : RequestId} {verdict : Verdict}
    (taken : c.gate.outstanding = some id) (gate : c'.gate = c.gate.deliver id verdict)
    (requests : forall other, c'.request? other = c.request? other) : c'.Awaited := by
  have free : c'.gate.outstanding = none := by
    rw [gate]
    rfl
  have same : c'.gate.issued = c.gate.issued := by
    rw [gate]
    rfl
  constructor
  · intro other taken'
    rw [free] at taken'
    cases taken'
  · simpa [Accepted, same, requests] using h.accepted
  · simpa [requests] using h.distinct
  · intro task other waits
    rw [requests] at waits
    have before := h.unanswered task other waits
    rw [free, gate, Gate.verdict?_deliver]
    by_cases mine : other = id
    · simp [mine]
    · have answered : c.gate.verdict? other ≠ none := by
        intro found
        exact mine (Option.some.inj ((before.2 found).symm.trans taken))
      simp [mine, answered]
  · intro other verdict' found
    rw [same]
    rw [gate, Gate.verdict?_deliver] at found
    by_cases mine : other = id
    · rw [mine]
      exact (h.accepted_of_outstanding taken).2
    · rw [if_neg mine, Option.or_none] at found
      exact h.posted other verdict' found

theorem Awaited.left (h : c.Awaited) {task : Nat} {id : RequestId}
    (waits : c.request? task = some id) (gate : c'.gate = c.gate.forget id)
    (requests : forall other, c'.request? other =
      if other = task then none else c.request? other) : c'.Awaited := by
  have same : c'.gate.issued = c.gate.issued := by
    rw [gate]
    rfl
  -- Those who still wait waited before, and for other requests.
  have stays {other : Nat} {id' : RequestId} (waiting : c'.request? other = some id') :
      c.request? other = some id' ∧ id' ≠ id := by
    rw [requests] at waiting
    split at waiting
    · cases waiting
    · rename_i differs
      refine ⟨waiting, ?_⟩
      intro isMine
      rw [isMine] at waiting
      exact differs (h.distinct other task id waiting waits)
  have outstanding {id' : RequestId} (differs : id' ≠ id) :
      c'.gate.outstanding = some id' ↔ c.gate.outstanding = some id' := by
    rw [gate, Gate.outstanding_forget]
    split
    · rename_i isMine
      rw [isMine]
      simp [Ne.symm differs]
    · rfl
  constructor
  · intro id' taken
    have differs : id' ≠ id := by
      intro isMine
      rw [gate, Gate.outstanding_forget, isMine] at taken
      split at taken
      · cases taken
      · rename_i notMine
        exact notMine taken
    rcases h.waiter id' ((outstanding differs).1 taken) with ⟨other, waiting⟩
    refine ⟨other, ?_⟩
    rw [requests, if_neg]
    · exact waiting
    · intro isTask
      rw [isTask, waits] at waiting
      exact differs (Option.some.inj waiting).symm
  · intro other id' waiting
    unfold Accepted
    rw [same]
    exact h.accepted other id' (stays waiting).1
  · intro first second id' waitsFirst waitsSecond
    exact h.distinct first second id' (stays waitsFirst).1 (stays waitsSecond).1
  · intro other id' waiting
    rcases stays waiting with ⟨before, differs⟩
    rw [outstanding differs, gate, Gate.verdict?_forget, if_neg differs]
    exact h.unanswered other id' before
  · intro id' verdict found
    rw [same]
    rw [gate, Gate.verdict?_forget] at found
    split at found
    · cases found
    · exact h.posted id' verdict found

theorem Coherent.gateStep (h : c.Coherent) (m : Move) : c.GateStep m :=
  Console.gateStep h.numbered h.awaited.unanswered_of_outstanding m

theorem Coherent.step (h : c.Coherent) (m : Move) : (c.step m).Coherent := by
  constructor
  · exact h.numbered.step m
  · exact h.shown.step m
  · cases h.gateStep m with
    | quiet gate requests => exact h.awaited.quiet gate requests
    | asked task idle free gate requests => exact h.awaited.asked free gate requests
    | taken id verdict way taken leaves gate requests => exact h.awaited.taken taken gate requests
    | left task id way outcome? waits gate requests => exact h.awaited.left waits gate requests

end

theorem coherent_fresh (settings : Settings) (hasLogDisplay : Bool) :
    (fresh settings hasLogDisplay).Coherent := by
  constructor
  · exact numbered_fresh settings hasLogDisplay
  · rfl
  · constructor <;> simp [fresh, request?, wait?, Gate.verdict?]

theorem coherent_play (settings : Settings) (hasLogDisplay : Bool) (moves : List Move) :
    ((fresh settings hasLogDisplay).play moves).Coherent := by
  have keeps (c : Console) (m : Move) (h : c.Coherent) : (c.step m).Coherent := h.step m
  exact play_keeps keeps (coherent_fresh settings hasLogDisplay) moves

/-! ## The numbers of requests -/

theorem acceptances_number (settings : Settings) (hasLogDisplay : Bool) (moves : List Move) :
    ((fresh settings hasLogDisplay).acceptances moves).map RequestId.number =
      List.range' 1 ((fresh settings hasLogDisplay).play moves).gate.issued := by
  induction moves using List.reverseRecOn with
  | nil => rfl
  | append_singleton moves m ih =>
      rw [acceptances_snoc, List.map_append, ih, play_snoc]
      cases (coherent_play settings hasLogDisplay moves).gateStep m with
      | quiet gate requests acceptance => simp [acceptance, gate]
      | asked task idle free gate requests acceptance =>
          have grows (n : Nat) : List.range' 1 (n + 1) = List.range' 1 n ++ [n + 1] := by
            rw [List.range'_1_concat, Nat.add_comm 1 n]
          rw [acceptance, gate]
          exact (grows _).symm
      | taken id verdict way taken leaves gate requests acceptance =>
          simp [acceptance, gate, Gate.deliver]
      | left task id way outcome? waits gate requests acceptance =>
          simp [acceptance, gate, Gate.forget]

theorem acceptances_increase (settings : Settings) (hasLogDisplay : Bool) (moves : List Move) :
    ((fresh settings hasLogDisplay).acceptances moves).Pairwise fun first second =>
      first.number < second.number := by
  have increasing : (List.range' 1
      ((fresh settings hasLogDisplay).play moves).gate.issued).Pairwise (· < ·) :=
    List.pairwise_lt_range'
  rw [← acceptances_number, List.pairwise_map] at increasing
  exact increasing

theorem mem_acceptances (settings : Settings) (hasLogDisplay : Bool) (moves : List Move)
    (id : RequestId) :
    id ∈ (fresh settings hasLogDisplay).acceptances moves ↔
      ((fresh settings hasLogDisplay).play moves).Accepted id := by
  have injective : Function.Injective RequestId.number := by
    intro first second same
    cases first
    cases second
    cases same
    rfl
  rw [← List.mem_map_of_injective injective, acceptances_number, List.mem_range'_1]
  unfold Accepted
  omega

theorem number_le_of_accepted {settings : Settings} {hasLogDisplay : Bool} {moves : List Move}
    {id : RequestId} (accepted : id ∈ (fresh settings hasLogDisplay).acceptances moves) :
    id.number ≤ ((fresh settings hasLogDisplay).acceptances moves).length := by
  have count := congrArg List.length (acceptances_number settings hasLogDisplay moves)
  rw [List.length_map, List.length_range'] at count
  rw [count]
  exact ((mem_acceptances settings hasLogDisplay moves id).1 accepted).2

/-! ## The end of an operation and later requests -/

theorem Coherent.other_stays {c : Console} (h : c.Coherent) {task : Nat} {id other : RequestId}
    (waits : c.request? task = some id) (taken : c.gate.outstanding = some other)
    (differs : other ≠ id) {m : Move}
    (ends : (exists expired, m = .wake task expired) ∨ m = .drop task) :
    (c.step m).gate.outstanding = some other ∧
      (c.step m).state.confirmation = c.state.confirmation := by
  have notMine : id ≠ other := differs.symm
  have kept : c.release? m = none := by
    rcases ends with ⟨expired, rfl⟩ | rfl
    · simp [release?, taken, releaseOf?, waits, notMine]
    · simp [release?, taken, releaseOf?, waits, notMine]
  have stays := (h.gateStep m).outstanding_stays kept taken
  constructor
  · exact stays
  · rw [(h.step m).shown, h.shown]
    unfold Gate.view
    rw [stays, taken]

/-- In every console that a run reaches, the dialog shows that a request is pending when it
shows one, and shows the one that is outstanding; one operation at most waits for a request
that has no verdict; the requests that became outstanding so far have greater and greater
numbers, none of them beyond how many there were; and the end of an operation leaves every
request but its own outstanding and shown. -/
theorem dialog_shows_outstanding (settings : Settings) (hasLogDisplay : Bool)
    (moves : List Move) :
    let start := fresh settings hasLogDisplay
    let c := start.play moves
    c.state.confirmation.pending = c.state.confirmation.request.isSome ∧
    c.state.confirmation.request = c.gate.outstanding ∧
    (forall first second id other,
      c.request? first = some id -> c.gate.verdict? id = none ->
      c.request? second = some other -> c.gate.verdict? other = none -> first = second) ∧
    ((start.acceptances moves).Pairwise fun first second => first.number < second.number) ∧
    (forall id, id ∈ start.acceptances moves ->
      id.number ≤ (start.acceptances moves).length) ∧
    (forall m id, c.acceptance? m = some id ↔
      c.gate.outstanding ≠ some id ∧ (c.step m).gate.outstanding = some id) ∧
    (forall task id other,
      c.request? task = some id -> c.gate.outstanding = some other -> other ≠ id ->
      forall m, (exists expired, m = .wake task expired) ∨ m = .drop task ->
        (c.step m).gate.outstanding = some other ∧
          (c.step m).state.confirmation = c.state.confirmation) := by
  intro start c
  have coherent : c.Coherent := coherent_play settings hasLogDisplay moves
  refine ⟨?_, ?_, ?_, ?_, ?_, ?_, ?_⟩
  · rw [coherent.shown]
    exact c.gate.view_pending
  · rw [coherent.shown]
    exact c.gate.view_request
  · intro first second id other waits open_ waits' open'
    have taken := (coherent.awaited.unanswered first id waits).2 open_
    have taken' := (coherent.awaited.unanswered second other waits').2 open'
    have same : id = other := Option.some.inj (taken.symm.trans taken')
    rw [← same] at waits'
    exact coherent.awaited.distinct first second id waits waits'
  · exact acceptances_increase settings hasLogDisplay moves
  · intro id accepted
    exact number_le_of_accepted accepted
  · intro m id
    exact (coherent.gateStep m).acceptance_iff id
  · intro task id other waits taken differs m ends
    exact coherent.other_stays waits taken differs ends

end Console
end RobotConsole
