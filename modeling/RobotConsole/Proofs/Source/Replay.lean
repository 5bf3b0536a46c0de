import Mathlib.Data.List.Forall2
import RobotConsole.Source.Recording

/-!
# Replaying at the recorded pace

The events of a recording are released in the order of the file. Each waits for its own time and
for those before it: an event with a late stamp holds up all that follow, whatever their stamps are.
-/

namespace RobotConsole

namespace Recording

/-- How long after the first event with a time an event was recorded, if it has a time itself. -/
def offset? (events : List TransportEvent) (event : TransportEvent) : Option Int :=
  event.recordedAt?.bind fun recorded =>
    (events.findSome? TransportEvent.recordedAt?).map fun origin => recorded - origin

/-- How long an event has to wait after the first poll: what 64 bits keep of its offset. -/
def wait? (events : List TransportEvent) (event : TransportEvent) : Option Int :=
  (offset? events event).map Numeric.wrapInt64

def isPassed (elapsed : Nat) (offset? : Option Int) : Bool :=
  offset?.all fun (offset : Int) => offset ≤ elapsed

def due (offset? : TransportEvent -> Option Int) (elapsed : Nat) (events : List TransportEvent) :
    List TransportEvent :=
  events.takeWhile fun event => isPassed elapsed (offset? event)

/-- What becomes of an event when it is released: telemetry gets the time of the clock, and nothing
else changes. -/
inductive ReleasedAs (clock : Int) : TransportEvent -> TransportEvent -> Prop where
  | telemetry (batch : TelemetryBatch) :
      ReleasedAs clock (.telemetry batch) (.telemetry { batch with timestamp? := some clock })
  | log (event : LogEvent) : ReleasedAs clock (.log event) (.log event)

end Recording

open Recording

namespace RecordedSource

def pollEach (s : RecordedSource) (times : List Instant) : RecordedSource :=
  times.foldl (fun s now => (s.poll now).2) s

def releases (s : RecordedSource) : List Instant -> List (Instant × TransportEvent)
  | [] => []
  | now :: rest => (s.poll now).1.toList.map (now, ·) ++ (s.poll now).2.releases rest

/-! ## One poll -/

theorem release_cases (r : Replay) (now : Instant) :
    (release r now = (none, r) ∧ r.pending.takeWhile (isDue r now) = []) ∨
      exists event rest, r.pending = event :: rest ∧ isDue r now event ∧
        release r now = (some (restamp now.wall event), { r with pending := rest }) := by
  unfold release
  cases r.pending with
  | nil => exact .inl ⟨rfl, rfl⟩
  | cons event rest =>
      dsimp only
      cases due : isDue r now event with
      | false => exact .inl ⟨rfl, List.takeWhile_cons_of_neg (by simp [due])⟩
      | true => exact .inr ⟨event, rest, rfl, due, rfl⟩

section

variable {s : RecordedSource} {r : Replay}

theorem poll_of_loaded (loaded : s.replay? = some r) (now : Instant) :
    s.poll now = ((release r now).1, { s with replay? := some (release r now).2 }) := by
  unfold poll
  rw [loaded]
  rfl

/-! ## Many polls -/

theorem releases_of_loaded (loaded : s.replay? = some r) (times : List Instant) :
    List.Forall₂ (fun released event =>
        released.2 = restamp released.1.wall event ∧ isDue r released.1 event)
      (s.releases times) (r.pending.take (s.releases times).length) ∧
    (s.pollEach times).replay? =
      some { r with pending := r.pending.drop (s.releases times).length } := by
  induction times generalizing s r with
  | nil => exact ⟨.nil, loaded⟩
  | cons now rest ih =>
      rw [releases, pollEach, List.foldl_cons, ← pollEach, poll_of_loaded loaded]
      rcases release_cases r now with ⟨held, -⟩ | ⟨event, left, waiting, due, released⟩
      · rw [held, ← loaded]
        exact ih loaded
      · rw [released]
        obtain ⟨inOrder, stay⟩ := ih (s := { s with replay? := some { r with pending := left } }) rfl
        rw [waiting]
        exact ⟨.cons ⟨rfl, due⟩ inOrder, stay⟩

theorem releases_of_same_due (loaded : s.replay? = some r) {due : TransportEvent -> Bool}
    (times : List Instant) (same : forall now, now ∈ times -> isDue r now = due) :
    s.releases times = List.zipWith (fun now event => (now, restamp now.wall event)) times
      (r.pending.takeWhile due) := by
  induction times generalizing s r with
  | nil => rfl
  | cons now rest ih =>
      obtain ⟨atOnce, later⟩ := List.forall_mem_cons.1 same
      rw [releases, poll_of_loaded loaded]
      rcases release_cases r now with ⟨held, front⟩ | ⟨event, left, waiting, isDue, released⟩
      · have others := ih loaded later
        rw [← atOnce, front, List.zipWith_nil_right] at others ⊢
        rw [held, ← loaded]
        exact others
      · rw [released, waiting, List.takeWhile_cons_of_pos (atOnce ▸ isDue), List.zipWith_cons_cons]
        exact congrArg (_ :: ·)
          (ih (s := { s with replay? := some { r with pending := left } }) rfl later)

end

/-! ## From the first poll on -/

section

variable (s : RecordedSource) (first : Instant)

def opened : RecordedSource :=
  { s with replay? := some (s.load first) }

theorem load_frame : (s.load first).started = first.elapsed ∧
    (s.load first).origin? = (s.load first).pending.findSome? TransportEvent.recordedAt? := by
  unfold load
  split <;> exact ⟨rfl, rfl⟩

theorem polls_opened (fresh : s.replay? = none) (later : List Instant) :
    s.releases (first :: later) = (s.opened first).releases (first :: later) ∧
      s.pollEach (first :: later) = (s.opened first).pollEach (first :: later) := by
  have same : s.poll first = (s.opened first).poll first := by
    unfold poll opened
    rw [fresh]
    rfl
  unfold pollEach
  rw [releases, releases, List.foldl_cons, List.foldl_cons, same]
  exact ⟨rfl, rfl⟩

end

/-- A source releases the events of its recording in the order of the file, telemetry with the time
of the clock, and none before its offset; those that were released and those that remain are all.
As long as the time stands still, each poll releases one more of those that are due, up to the
first that is not. -/
structure Paced (s : RecordedSource) (offset? : TransportEvent -> Option Int) (first : Instant)
    (later : List Instant) : Prop where
  inOrder :
    let released := s.releases (first :: later)
    List.Forall₂ (fun r event => ReleasedAs r.1.wall event r.2 ∧
        isPassed (r.1.elapsed - first.elapsed) (offset? event))
      released ((s.load first).pending.take released.length)
  complete : (s.releases (first :: later)).length + (s.pollEach (first :: later)).remaining =
    (s.load first).pending.length
  atOnce : forall before again elapsed, before ++ again = first :: later ->
    (forall now, now ∈ again -> now.elapsed - first.elapsed = elapsed) ->
    (s.pollEach before).releases again =
      List.zipWith (fun now event => (now, restamp now.wall event)) again
        (due offset? elapsed ((s.load first).pending.drop (s.releases before).length))

/-- The last event has been due for long when the one before it is released. -/
example :
    let log (timestamp : Int) : TransportEvent := .log { timestamp, level := .info, message := "" }
    let replay : Replay := ⟨[log 1000, log 61000, log 2000], some 1000, 0, none⟩
    let source : RecordedSource := { path := "match.jsonl", file := .ok [], replay? := some replay }
    (source.releases [⟨0, 0⟩, ⟨9000, 9000⟩, ⟨60000, 60000⟩, ⟨60001, 60001⟩]).map Prod.fst =
      [⟨0, 0⟩, ⟨60000, 60000⟩, ⟨60001, 60001⟩] := by
  decide

end RecordedSource
end RobotConsole
