import RobotConsole.Proofs.Session.Pumping
import RobotConsole.Source.Channel

/-!
# Sessions on a channel

Of the events that a channel accepts none is lost or applied twice: those that a session has applied
and those that wait in the channel are, in this order, all that were accepted. The channel reports
that its producer is gone only when nothing waits any more.
-/

namespace RobotConsole

open EventSource

inductive ChannelInput where
  | send (event : TransportEvent)
  | close

namespace ChannelSource

def input (c : ChannelSource) : ChannelInput -> ChannelSource
  | .send event => (c.send event).1
  | .close => c.close.1

section

variable (now : Instant) (n : Nat) (c : ChannelSource)

theorem hasReady_iff : HasReady now n c ↔ n ≤ c.queue.length := by
  induction n generalizing c with
  | zero => simp [hasReady_zero]
  | succ n ih =>
      rw [hasReady_succ, ih]
      cases waiting : c.queue with
      | nil => simp [EventSource.poll, poll, waiting]
      | cons event rest => simp [EventSource.poll, poll, waiting]

theorem pollAll_eq (enough : n ≤ c.queue.length) :
    pollAll now n c = ((c.queue.take n).map some, { c with queue := c.queue.drop n }) := by
  induction n generalizing c with
  | zero => rfl
  | succ n ih =>
      cases waiting : c.queue with
      | nil => simp [waiting] at enough
      | cons event rest =>
          have shorter : n ≤ rest.length := by simpa [waiting] using enough
          have next : EventSource.poll now c = (some event, { c with queue := rest }) := by
            simp [EventSource.poll, poll, waiting]
          simp [pollAll, next, ih { c with queue := rest } shorter]

end

end ChannelSource

def Feed.event? : Feed -> Option TransportEvent
  | .event _ e => some e
  | .tick _ => none

namespace Session

/-- The event that a step puts into the channel, if the channel accepts one. -/
def accepted (s : Session ChannelSource) : SessionStep ChannelInput -> List TransportEvent
  | .input (.send event) => if (s.source.send event).2 = .sent then [event] else []
  | _ => []

def applied {σ ι : Type} [EventSource σ] (s : Session σ) (st : SessionStep ι) :
    List TransportEvent :=
  (s.fed st).filterMap Feed.event?

theorem applied_pump {σ ι : Type} [EventSource σ] (s : Session σ) (now : Instant) :
    s.applied (SessionStep.pump (ι := ι) now) = s.polled now := by
  unfold applied
  simp only [fed, List.filterMap_map]
  exact List.filterMap_some (l := s.polled now)

section

variable (s : Session ChannelSource) (now : Instant)

theorem pump_channel (room : s.source.queue.length ≤ channelCapacity) :
    (s.pump now).2 = s.source.queue.length ∧ s.polled now = s.source.queue ∧
      (s.pump now).1.source = (ChannelSource.poll { s.source with queue := [] }).2 := by
  have below : s.source.queue.length < pumpLimit := Nat.lt_of_le_of_lt room (by decide)
  have counts (n : Nat) : n ≤ (s.pump now).2 ↔ n ≤ s.source.queue.length := by
    rw [le_pump_iff, ChannelSource.hasReady_iff]
    constructor
    · exact And.right
    · intro enough
      exact ⟨Nat.le_trans enough (Nat.le_of_lt below), enough⟩
  have count : (s.pump now).2 = s.source.queue.length :=
    Nat.le_antisymm ((counts _).1 (Nat.le_refl _)) ((counts _).2 (Nat.le_refl _))
  have polls := ChannelSource.pollAll_eq now s.source.queue.length s.source (Nat.le_refl _)
  rw [List.take_length, List.drop_length] at polls
  refine ⟨count, ?_, ?_⟩
  · apply polled_eq
    rw [count, polls]
  · rw [source_pump, count, if_pos below, polls]
    rfl

end

/-- How a session on a channel stands when the channel has accepted these events and those were
applied. -/
structure Carries (s : Session ChannelSource) (applied accepted : List TransportEvent) : Prop where
  account : applied ++ s.source.queue = accepted
  room : s.source.queue.length ≤ channelCapacity
  drained : s.source.exhausted -> s.source.queue = [] ∧ s.source.isOpen = false
  noted : s.lastFault = fault? s.source

namespace Carries

variable {s : Session ChannelSource} {applied accepted : List TransportEvent}

theorem pump (carries : s.Carries applied accepted) (now : Instant) :
    (s.pump now).1.Carries (applied ++ s.polled now) accepted := by
  obtain ⟨-, polled, source⟩ := pump_channel s now carries.room
  have emptied : (s.pump now).1.source.queue = [] := by
    rw [source]
    unfold ChannelSource.poll
    split
    · contradiction
    · split <;> rfl
  constructor
  · rw [polled, emptied, carries.account, List.append_nil]
  · rw [emptied]
    exact Nat.zero_le _
  · intro exhausted
    refine ⟨emptied, ?_⟩
    rw [source] at exhausted ⊢
    cases there : s.source.isOpen with
    | true =>
        -- The poll that ends the pump changes nothing then.
        have before : s.source.exhausted := by simpa [ChannelSource.poll, there] using exhausted
        rw [(carries.drained before).2] at there
        cases there
    | false => simp [ChannelSource.poll, there]
  · exact lastFault_pump s now

theorem send (carries : s.Carries applied accepted) (event : TransportEvent) :
    Carries { s with source := (s.source.send event).1 } applied
      (accepted ++ if (s.source.send event).2 = .sent then [event] else []) := by
  unfold ChannelSource.send
  split
  · simpa using carries
  · rename_i there
    split
    · simpa using carries
    · rename_i room
      constructor
      · simp [← carries.account]
      · rw [List.length_append]
        exact Nat.lt_of_not_le room
      · intro exhausted
        simp [(carries.drained exhausted).2] at there
      · exact carries.noted

theorem close (carries : s.Carries applied accepted) :
    Carries { s with source := s.source.close.1 } applied accepted :=
  ⟨carries.account, carries.room, fun exhausted => ⟨(carries.drained exhausted).1, rfl⟩,
    carries.noted⟩

theorem step (carries : s.Carries applied accepted) (st : SessionStep ChannelInput) :
    (s.step ChannelSource.input st).Carries (applied ++ s.applied st)
      (accepted ++ s.accepted st) := by
  cases st with
  | pump now =>
      rw [applied_pump, show s.accepted (.pump now) = [] from rfl, List.append_nil]
      exact carries.pump now
  | tick now =>
      rw [show s.applied (.tick now) = [] from rfl, show s.accepted (.tick now) = [] from rfl,
        List.append_nil, List.append_nil]
      exact ⟨carries.account, carries.room, carries.drained, carries.noted⟩
  | input i =>
      rw [show s.applied (.input i) = [] from rfl, List.append_nil]
      cases i with
      | send event => exact carries.send event
      | close =>
          rw [show s.accepted (.input .close) = [] from rfl, List.append_nil]
          exact carries.close

theorem applied_of_fault (carries : s.Carries applied accepted)
    (gone : fault? s.source = some "Producer closed") :
    applied = accepted ∧ s.source.isOpen = false := by
  have exhausted : s.source.exhausted = true := by
    by_contra lively
    simp [fault?, lively] at gone
  obtain ⟨emptied, closed⟩ := carries.drained exhausted
  have account := carries.account
  rw [emptied, List.append_nil] at account
  exact ⟨account, closed⟩

theorem fault_pump (carries : s.Carries applied accepted) (closed : s.source.isOpen = false)
    (now : Instant) :
    fault? (s.pump now).1.source = some "Producer closed" := by
  rw [(pump_channel s now carries.room).2.2]
  simp [ChannelSource.poll, closed, fault?]

end Carries

theorem carries_play (console : Console) (label : String)
    (steps : List (SessionStep ChannelInput)) :
    let first : Session ChannelSource := { console, source := { label } }
    (first.play ChannelSource.input steps).Carries
      (first.trace ChannelSource.input applied steps)
      (first.trace ChannelSource.input accepted steps) := by
  intro first
  induction steps using List.reverseRecOn with
  | nil => exact ⟨rfl, Nat.zero_le _, nofun, rfl⟩
  | append_singleton steps st ih =>
      rw [play_snoc, trace_snoc, trace_snoc]
      exact ih.step st

/-- What a run of a session applies are the events that the polls yield, in this order, each once.
A pump applies as many as are ready, up to its limit, and returns their number; what it leaves
comes first in the next pump. On a channel, those that were applied and those that wait are together
the accepted ones; the fault of a gone producer shows that all of them were applied, and the next
pump finds it. -/
theorem pumps_apply_each_event_once {σ ι : Type} [EventSource σ] (act : σ -> ι -> σ) (s : Session σ)
    (steps : List (SessionStep ι)) (now later : Instant) (ticks : List Int) (console : Console)
    (label : String) (moves : List (SessionStep ChannelInput)) :
    let t := s.play act steps
    let count := (t.pump now).2
    let polls := pollAll now count t.source
    let first : Session ChannelSource := { console, source := { label } }
    let u := first.play ChannelSource.input moves
    let done := first.trace ChannelSource.input applied moves
    let taken := first.trace ChannelSource.input accepted moves
    t.console.state = (s.console.play ((s.trace act fed steps).map Feed.move)).state ∧
      (polls.1 = (t.polled now).map some ∧ (t.polled now).length = count ∧
        (forall n, n ≤ count ↔ n ≤ 1024 ∧ HasReady now n t.source) ∧
        (t.pump now).1.source = (if count < 1024 then (poll now polls.2).2 else polls.2) ∧
        (count = 1024 -> forall event, (poll later polls.2).1 = some event ->
          (((t.pump now).1.play act (ticks.map .tick)).polled later).head? = some event)) ∧
      done ++ u.source.queue = taken ∧ (u.pump now).2 = u.source.queue.length ∧
      u.lastFault = fault? u.source ∧
      (fault? u.source = some "Producer closed" -> done = taken ∧ u.source.isOpen = false) ∧
      (u.source.isOpen = false -> fault? (u.pump now).1.source = some "Producer closed") := by
  intro t count polls first u done taken
  have carries : u.Carries done taken := carries_play console label moves
  have left : (t.pump now).1.source = if count < 1024 then (poll now polls.2).2 else polls.2 :=
    source_pump t now
  refine ⟨state_play act s steps, ⟨answers_pump t now, (pumped_polled t now).1, le_pump_iff t now,
    left, ?_⟩, carries.account, (pump_channel u now carries.room).1, carries.noted,
    carries.applied_of_fault, fun closed => carries.fault_pump closed now⟩
  intro full event ready
  apply head?_polled
  rw [source_play_ticks, left, if_neg (full ▸ Nat.lt_irrefl 1024)]
  exact ready

end Session
end RobotConsole
