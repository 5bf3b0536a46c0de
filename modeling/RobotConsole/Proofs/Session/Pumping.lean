import Mathlib.Data.List.ReduceOption
import RobotConsole.Proofs.Console.Run
import RobotConsole.Session

/-!
# Pumping

A session applies the events of its source in the order in which the polls yield them, each once.
A pump polls until the source has nothing ready, or the limit is reached; what it leaves is as the
last poll left it, so the next pump goes on where it stopped.
-/

namespace RobotConsole

namespace EventSource

variable {σ : Type} [EventSource σ] (now : Instant) (n : Nat) (source : σ)

/-- So many polls in a row all find an event. -/
def HasReady : Prop :=
  forall answer, answer ∈ (pollAll now n source).1 -> answer.isSome

theorem hasReady_zero : HasReady now 0 source := by
  intro answer mem
  cases mem

theorem hasReady_succ : HasReady now (n + 1) source ↔
    (poll now source).1.isSome ∧ HasReady now n (poll now source).2 :=
  List.forall_mem_cons

end EventSource

open EventSource

/-- What happens to a session: it is pumped, it ticks, and its source is acted on from outside. -/
inductive SessionStep (ι : Type) where
  | pump (now : Instant)
  | tick (now : Int)
  | input (i : ι)

namespace Session

section

variable {σ ι : Type} [EventSource σ] (act : σ -> ι -> σ)

def step (s : Session σ) : SessionStep ι -> Session σ
  | .pump now => (s.pump now).1
  | .tick now => s.mapConsole fun c => c.tick now
  | .input i => { s with source := act s.source i }

def play (s : Session σ) (steps : List (SessionStep ι)) : Session σ :=
  steps.foldl (step act) s

def trace {α : Type} (observe : Session σ -> SessionStep ι -> List α) (s : Session σ) :
    List (SessionStep ι) -> List α
  | [] => []
  | st :: rest => observe s st ++ (s.step act st).trace observe rest

/-- The events that the polls of a pump have yielded. -/
def polled (s : Session σ) (now : Instant) : List TransportEvent :=
  (pollAll now (s.pump now).2 s.source).1.reduceOption

def fed (s : Session σ) : SessionStep ι -> List Feed
  | .pump now => (s.polled now).map fun e => .event now.wall e
  | .tick now => [.tick now]
  | .input _ => []

theorem play_snoc (s : Session σ) (steps : List (SessionStep ι)) (st : SessionStep ι) :
    s.play act (steps ++ [st]) = (s.play act steps).step act st := by
  unfold play
  rw [List.foldl_append]
  rfl

theorem trace_snoc {α : Type} (observe : Session σ -> SessionStep ι -> List α) (s : Session σ)
    (steps : List (SessionStep ι)) (st : SessionStep ι) :
    s.trace act observe (steps ++ [st]) =
      s.trace act observe steps ++ observe (s.play act steps) st := by
  induction steps generalizing s with
  | nil => simp [trace, play]
  | cons first rest ih =>
      rw [List.cons_append, trace, ih, trace, List.append_assoc]
      rfl

end

/-! ## One pump -/

section

variable {σ : Type} [EventSource σ]

/-- A pump within a limit: the events that the polls yield are applied one after the other, as many
as are ready, and beyond them only the poll is made that finds nothing. -/
structure Pumped (s t : Session σ) (now : Instant) (limit : Nat) (events : List TransportEvent) :
    Prop where
  answers : (pollAll now events.length s.source).1 = events.map some
  console : t.console = s.console.play (events.map fun e => .apply now.wall e)
  ready : forall n, n ≤ events.length ↔ n ≤ limit ∧ HasReady now n s.source
  source : t.source =
    if events.length < limit then (poll now (pollAll now events.length s.source).2).2
    else (pollAll now events.length s.source).2

theorem pumped_pumpEvents (s : Session σ) (now : Instant) (limit : Nat) :
    exists events, (s.pumpEvents now limit).2 = events.length ∧
      Pumped s (s.pumpEvents now limit).1 now limit events := by
  induction limit generalizing s with
  | zero =>
      refine ⟨[], rfl, rfl, rfl, ?_, rfl⟩
      intro n
      constructor
      · intro none
        cases Nat.le_zero.1 none
        exact ⟨Nat.le_refl 0, hasReady_zero now s.source⟩
      · exact And.left
  | succ limit ih =>
      rcases found : poll now s.source with ⟨_ | event, source⟩
      · have stops : s.pumpEvents now (limit + 1) = ({ s with source }, 0) := by
          simp only [pumpEvents, found]
        rw [stops]
        refine ⟨[], rfl, rfl, rfl, ?_, ?_⟩
        · intro n
          cases n with
          | zero => simp [hasReady_zero]
          | succ n => simp [hasReady_succ, found]
        · simp [pollAll, found]
      · obtain ⟨events, count, pumped⟩ :=
          ih { s with source, console := s.console.apply now.wall event }
        have goesOn : s.pumpEvents now (limit + 1) =
            let p := Session.pumpEvents
              { s with source, console := s.console.apply now.wall event } now limit
            (p.1, p.2 + 1) := by
          simp only [pumpEvents, found]
        rw [goesOn]
        refine ⟨event :: events, ?_, ?_, ?_, ?_, ?_⟩
        · exact congrArg (· + 1) count
        · simp [pollAll, found, pumped.answers]
        · exact pumped.console
        · intro n
          cases n with
          | zero => simp [hasReady_zero]
          | succ n => simpa [hasReady_succ, found] using pumped.ready n
        · simpa [pollAll, found] using pumped.source

theorem noteFault_frame (s : Session σ) :
    s.noteFault.console.state = s.console.state ∧ s.noteFault.source = s.source := by
  unfold noteFault
  dsimp only
  split <;> exact ⟨rfl, rfl⟩

theorem lastFault_noteFault (s : Session σ) :
    s.noteFault.lastFault = fault? s.noteFault.source := by
  rw [(noteFault_frame s).2]
  unfold noteFault
  dsimp only
  split
  · rename_i same
    exact same.symm
  · rfl

section

variable (s : Session σ) (now : Instant)

theorem polled_eq {events : List TransportEvent}
    (answers : (pollAll now (s.pump now).2 s.source).1 = events.map some) :
    s.polled now = events := by
  unfold polled
  rw [answers]
  simp [List.reduceOption, List.filterMap_map]

theorem pumped_polled : (s.polled now).length = (s.pump now).2 ∧
    Pumped s (s.pumpEvents now pumpLimit).1 now pumpLimit (s.polled now) := by
  obtain ⟨events, count, pumped⟩ := pumped_pumpEvents s now pumpLimit
  have counted : (s.pump now).2 = events.length := count
  rw [polled_eq s now (counted ▸ pumped.answers)]
  exact ⟨counted.symm, pumped⟩

theorem answers_pump :
    (pollAll now (s.pump now).2 s.source).1 = (s.polled now).map some := by
  obtain ⟨count, pumped⟩ := pumped_polled s now
  rw [← count]
  exact pumped.answers

theorem le_pump_iff (n : Nat) : n ≤ (s.pump now).2 ↔ n ≤ pumpLimit ∧ HasReady now n s.source := by
  obtain ⟨count, pumped⟩ := pumped_polled s now
  rw [← count]
  exact pumped.ready n

theorem source_pump : (s.pump now).1.source =
    if (s.pump now).2 < pumpLimit then (poll now (pollAll now (s.pump now).2 s.source).2).2
    else (pollAll now (s.pump now).2 s.source).2 := by
  obtain ⟨count, pumped⟩ := pumped_polled s now
  rw [← count]
  exact (noteFault_frame _).2.trans pumped.source

theorem state_pump : (s.pump now).1.console.state =
    (s.console.play ((s.polled now).map fun e => .apply now.wall e)).state := by
  rw [← (pumped_polled s now).2.console]
  exact (noteFault_frame _).1

theorem lastFault_pump : (s.pump now).1.lastFault = fault? (s.pump now).1.source :=
  lastFault_noteFault _

theorem head?_polled {event : TransportEvent} (ready : (poll now s.source).1 = some event) :
    (s.polled now).head? = some event := by
  have one : 1 ≤ (s.pump now).2 := by
    rw [le_pump_iff, hasReady_succ, ready]
    exact ⟨by decide, rfl, hasReady_zero now _⟩
  have answers := answers_pump s now
  obtain ⟨count, counted⟩ := Nat.exists_eq_succ_of_ne_zero (Nat.one_le_iff_ne_zero.1 one)
  rw [counted, pollAll] at answers
  cases polled : s.polled now with
  | nil =>
      rw [polled] at answers
      cases answers
  | cons first rest =>
      rw [polled] at answers
      have same := (List.cons.inj answers).1
      exact same.symm.trans ready

end

end

/-! ## A run of pumps and ticks -/

section

variable {σ ι : Type} [EventSource σ] (act : σ -> ι -> σ)

theorem state_step (s : Session σ) (st : SessionStep ι) :
    (s.step act st).console.state = (s.fed st).foldl SessionState.feed s.console.state := by
  cases st with
  | pump now =>
      rw [← Console.state_play_feeds]
      simp only [fed, List.map_map]
      exact state_pump s now
  | tick now => exact s.console.state_feed (.tick now)
  | input i => rfl

theorem state_play (s : Session σ) (steps : List (SessionStep ι)) :
    (s.play act steps).console.state =
      (s.console.play ((s.trace act fed steps).map Feed.move)).state := by
  rw [Console.state_play_feeds]
  induction steps using List.reverseRecOn with
  | nil => rfl
  | append_singleton steps st ih =>
      rw [play_snoc, trace_snoc, state_step, ih, List.foldl_append]

theorem source_play_ticks (s : Session σ) (ticks : List Int) :
    (s.play act (ticks.map .tick)).source = s.source := by
  induction ticks generalizing s with
  | nil => rfl
  | cons now rest ih => exact ih (s.step act (.tick now))

end

end Session
end RobotConsole
