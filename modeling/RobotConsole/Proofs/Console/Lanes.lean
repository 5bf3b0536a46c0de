import RobotConsole.Proofs.Console.Published
import RobotConsole.Proofs.Peripherals.Snapshots

/-!
# Lanes

What a console takes in from different streams may overtake each other: the gamepads, the other
devices and the log of the controller each have a lane, and only the order within a lane makes a
difference. A tick looks at the arrivals of the devices and clears what the log has raised, so it
keeps its place in both of these lanes; the gamepads have nothing to do with it.
-/

namespace RobotConsole

/-! ## Changing places -/

/-- Two things that share no lane. -/
def Apart {α ι : Type} (holds : ι -> α -> Bool) (a b : α) : Prop :=
  forall lane, ¬ (holds lane a ∧ holds lane b)

section

variable {α σ ι : Type} {step : σ -> α -> σ} {holds : ι -> α -> Bool} {P : σ -> Prop}

theorem foldl_overtake (keeps : forall s a, P s -> P (step s a))
    (swap : forall s a b, P s -> Apart holds a b -> step (step s a) b = step (step s b) a)
    {a : α} {front : List α} (apart : forall b, b ∈ front -> Apart holds a b)
    {s : σ} (h : P s) :
    step (front.foldl step s) a = front.foldl step (step s a) := by
  induction front generalizing s with
  | nil => rfl
  | cons b front ih =>
      have later (c : α) (mem : c ∈ front) := apart c (List.mem_cons_of_mem b mem)
      rw [List.foldl_cons, List.foldl_cons, ih later (keeps s b h),
        swap s a b h (apart b List.mem_cons_self)]

theorem exists_front_of_lanes (somewhere : forall a, exists lane, holds lane a) {a : α}
    {rest other : List α}
    (same : forall lane, (a :: rest).filter (holds lane) = other.filter (holds lane)) :
    exists front back, other = front ++ a :: back ∧ (forall b, b ∈ front -> Apart holds a b) ∧
      forall lane, rest.filter (holds lane) = (front ++ back).filter (holds lane) := by
  obtain ⟨own, held⟩ := somewhere a
  have first : other.filter (holds own) = a :: rest.filter (holds own) := by
    rw [← same own, List.filter_cons_of_pos held]
  obtain ⟨front, back, split, free, _, _⟩ := List.filter_eq_cons_iff.1 first
  have apart (b : α) (mem : b ∈ front) : Apart holds a b := by
    rintro lane ⟨heldA, heldB⟩
    -- In that lane the run would begin with something of the front, and not with `a`.
    obtain ⟨c, others, found⟩ := List.exists_cons_of_ne_nil
      (List.ne_nil_of_mem (List.mem_filter.2 ⟨mem, heldB⟩))
    have lanes := same lane
    rw [split, List.filter_append, found, List.filter_cons_of_pos heldA, List.cons_append] at lanes
    have begins : a = c := (List.cons.inj lanes).1
    have inside : a ∈ front := by
      rw [begins]
      exact (List.mem_filter.1 (found ▸ List.mem_cons_self)).1
    exact free a inside held
  refine ⟨front, back, split, apart, ?_⟩
  intro lane
  have lanes := same lane
  rw [split, List.filter_append] at lanes
  rw [List.filter_append]
  by_cases heldA : holds lane a
  · have none : front.filter (holds lane) = [] :=
      List.filter_eq_nil_iff.2 fun b mem heldB => apart b mem lane ⟨heldA, heldB⟩
    rw [none, List.filter_cons_of_pos heldA, List.filter_cons_of_pos heldA] at lanes
    rw [none]
    exact (List.cons.inj lanes).2
  · rwa [List.filter_cons_of_neg heldA, List.filter_cons_of_neg heldA] at lanes

/-- Two runs with the same lanes come to the same end if what is apart can change places. -/
theorem foldl_eq_of_lanes (keeps : forall s a, P s -> P (step s a))
    (somewhere : forall a, exists lane, holds lane a)
    (swap : forall s a b, P s -> Apart holds a b -> step (step s a) b = step (step s b) a)
    {one other : List α}
    (same : forall lane, one.filter (holds lane) = other.filter (holds lane)) {s : σ} (h : P s) :
    one.foldl step s = other.foldl step s := by
  induction one generalizing other s with
  | nil =>
      have empty : other = [] := by
        apply List.eq_nil_iff_forall_not_mem.2
        intro a mem
        obtain ⟨lane, held⟩ := somewhere a
        exact List.filter_eq_nil_iff.1 (same lane).symm a mem held
      rw [empty]
  | cons a rest ih =>
      obtain ⟨front, back, rfl, apart, lanes⟩ := exists_front_of_lanes somewhere same
      rw [List.foldl_cons, ih lanes (keeps s a h), List.foldl_append, List.foldl_append,
        List.foldl_cons, foldl_overtake keeps swap apart h]

end

/-! ## What a session takes in -/

def TelemetryBatch.stamped (batch : TelemetryBatch) (timestamp : Int) : TelemetryBatch :=
  { batch with timestamp? := some timestamp }

/-- What a session takes in, batches with their own times. -/
inductive Intake where
  | batch (timestamp : Int) (batch : TelemetryBatch)
  | log (event : LogEvent)
  | tick (now : Int)

inductive Lane where
  | gamepads
  | devices
  | log

/-- What is in a lane. A tick is in two of them. -/
def Lane.holds : Lane -> Intake -> Bool
  | gamepads, .batch _ batch => batch.kind = .gamepad
  | devices, .batch _ batch => batch.kind ≠ .gamepad
  | devices, .tick _ => true
  | log, .log _ => true
  | log, .tick _ => true
  | _, _ => false

def Intake.feed (clock : Int) : Intake -> Feed
  | batch timestamp b => .event clock (.telemetry (b.stamped timestamp))
  | log event => .event clock (.log event)
  | tick now => .tick now

namespace SessionState

def takeIn (s : SessionState) : Intake -> SessionState
  | .batch timestamp b => s.applyBatch timestamp (b.stamped timestamp)
  | .log event => s.applyLog event
  | .tick now => s.tick now

end SessionState

theorem Lane.exists_holds (i : Intake) : exists lane, Lane.holds lane i := by
  cases i with
  | batch timestamp b =>
      by_cases gamepad : b.kind = .gamepad
      · exact ⟨gamepads, decide_eq_true gamepad⟩
      · exact ⟨devices, decide_eq_true gamepad⟩
  | log event => exact ⟨log, rfl⟩
  | tick now => exact ⟨log, rfl⟩

/-! ## What can change places -/

theorem Link.noteLog_recordArrival {α : Type} (link : Link α) (timestamp : Int)
    (event : LogEvent) :
    (link.recordArrival timestamp).noteLog event =
      (link.noteLog event).recordArrival timestamp := by
  have same : (link.recordArrival timestamp).isDown = link.isDown := rfl
  unfold Link.noteLog
  rw [same]
  split <;> rfl

namespace SessionState

section

variable (s : SessionState) (now now' : Int) {batch batch' : TelemetryBatch}

theorem applyLog_applyBatch (batch : TelemetryBatch) (event : LogEvent) :
    (s.applyBatch now batch).applyLog event = (s.applyLog event).applyBatch now batch := by
  unfold applyBatch applyLog
  dsimp only
  split
  · rw [Link.noteLog_recordArrival]
  · rfl

theorem applyBatch_of_gamepad (gamepad : batch.kind = .gamepad) :
    s.applyBatch now batch = { s with
      peripherals :=
        s.peripherals.applySnapshot .gamepad (batch.timestampOr now) batch.samples } := by
  unfold applyBatch
  rw [gamepad]
  rfl

theorem applyBatch_comm (h : Dict.Ascending s.peripherals.entries)
    (gamepad : batch.kind = .gamepad) (other : batch'.kind ≠ .gamepad) :
    (s.applyBatch now batch).applyBatch now' batch' =
      (s.applyBatch now' batch').applyBatch now batch := by
  rw [applyBatch_of_gamepad s now gamepad, applyBatch_of_gamepad _ now gamepad]
  unfold applyBatch
  dsimp only
  rw [Peripherals.applySnapshot_comm h other.symm]

theorem tick_applyBatch (gamepad : batch.kind = .gamepad) (time : Int) :
    (s.applyBatch now batch).tick time = (s.tick time).applyBatch now batch := by
  rw [applyBatch_of_gamepad s now gamepad, applyBatch_of_gamepad _ now gamepad]
  rfl

end

theorem takeIn_swap (s : SessionState) (a b : Intake)
    (h : Dict.Ascending s.peripherals.entries) (apart : Apart Lane.holds a b) :
    (s.takeIn a).takeIn b = (s.takeIn b).takeIn a := by
  cases a with
  | batch timestamp first => cases b with
    | batch timestamp' second =>
        by_cases gamepad : (first.stamped timestamp).kind = .gamepad
        · have other : (second.stamped timestamp').kind ≠ .gamepad := by
            intro gamepad'
            exact apart .gamepads ⟨decide_eq_true gamepad, decide_eq_true gamepad'⟩
          exact applyBatch_comm s timestamp timestamp' h gamepad other
        · have gamepad' : (second.stamped timestamp').kind = .gamepad := by
            by_contra other
            exact apart .devices ⟨decide_eq_true gamepad, decide_eq_true other⟩
          exact (applyBatch_comm s timestamp' timestamp h gamepad' gamepad).symm
    | log event => exact applyLog_applyBatch s timestamp _ event
    | tick now =>
        have gamepad : (first.stamped timestamp).kind = .gamepad := by
          by_contra other
          exact apart .devices ⟨decide_eq_true other, rfl⟩
        exact tick_applyBatch s timestamp gamepad now
  | log event => cases b with
    | batch timestamp second => exact (applyLog_applyBatch s timestamp _ event).symm
    | log event' => exact absurd ⟨rfl, rfl⟩ (apart .log)
    | tick now => exact absurd ⟨rfl, rfl⟩ (apart .log)
  | tick now => cases b with
    | batch timestamp second =>
        have gamepad : (second.stamped timestamp).kind = .gamepad := by
          by_contra other
          exact apart .devices ⟨rfl, decide_eq_true other⟩
        exact (tick_applyBatch s timestamp gamepad now).symm
    | log event => exact absurd ⟨rfl, rfl⟩ (apart .log)
    | tick now' => exact absurd ⟨rfl, rfl⟩ (apart .log)

theorem kept_ascending : Kept fun s => Dict.Ascending s.peripherals.entries where
  editor _ h := h
  dialog _ h := h
  alliance _ h := h
  mode _ h := h
  batch _ _ h := Peripherals.ascending_applySnapshot h _ _ _
  log _ h := h
  tick _ h := h

theorem kept_takeIn {s : SessionState} (i : Intake) (h : Dict.Ascending s.peripherals.entries) :
    Dict.Ascending (s.takeIn i).peripherals.entries := by
  cases i with
  | batch timestamp b => exact kept_ascending.batch timestamp _ h
  | log event => exact kept_ascending.log event h
  | tick now => exact kept_ascending.tick now h

end SessionState

/-! ## The console -/

namespace Console

theorem state_play_intakes (c : Console) (intakes : List (Int × Intake)) :
    (c.play (intakes.map fun i => (i.2.feed i.1).move)).state =
      (intakes.map Prod.snd).foldl SessionState.takeIn c.state := by
  have clockless (s : SessionState) (clock : Int) (i : Intake) :
      s.feed (i.feed clock) = s.takeIn i := by
    cases i <;> rfl
  have fed := c.state_play_feeds (intakes.map fun i => i.2.feed i.1)
  rw [List.map_map, List.foldl_map] at fed
  rw [List.foldl_map]
  simp only [clockless] at fed
  exact fed

/-- Whatever a console has gone through, it does not matter in which order it takes in what comes
from the gamepads, from the other devices and from the log, as long as each of them stays in order.
It can tick in between: a tick keeps its place among the batches of the devices and the log events,
and the gamepads may pass it. -/
theorem state_of_lanes (settings : Settings) (hasLogDisplay : Bool) (before : List Move)
    (first second : List (Int × Intake))
    (same : forall lane : Lane,
      (first.map Prod.snd).filter lane.holds = (second.map Prod.snd).filter lane.holds) :
    let c := (fresh settings hasLogDisplay).play before
    (c.play (first.map fun i => (i.2.feed i.1).move)).state =
      (c.play (second.map fun i => (i.2.feed i.1).move)).state := by
  intro c
  have ascending : Dict.Ascending c.state.peripherals.entries :=
    (shows_play SessionState.kept_ascending Dict.ascending_nil hasLogDisplay before).now
  rw [state_play_intakes, state_play_intakes]
  exact foldl_eq_of_lanes (fun _ => SessionState.kept_takeIn) Lane.exists_holds
    SessionState.takeIn_swap same ascending

/-- The link is up, a fault overtakes a wheel and a gamepad, and the gamepad is overtaken by a tick,
too. -/
theorem state_of_lanes_overtaken :
    let gamepad : Intake := .batch 210
      { kind := .gamepad, samples := [({ number := 0 }, [("button_a", .bool true)])] }
    let wheel : Intake := .batch 220
      { kind := .smartDevice, samples := [({ number := 7 }, [("angle", .int 90)])] }
    let fault : Intake := .log { timestamp := 215, level := .error, message := "overheated" }
    let c := (fresh {} true).play
      [.apply 0 (.telemetry { kind := .smartDevice, timestamp? := some 0 }), .tick 100]
    let first := [(0, gamepad), (1, wheel), (2, fault), (3, .tick 300)]
    let second := [(5, fault), (6, wheel), (7, .tick 300), (8, gamepad)]
    (forall lane : Lane,
      (first.map Prod.snd).filter lane.holds = (second.map Prod.snd).filter lane.holds) ∧
    (c.play (first.map fun i => (i.2.feed i.1).move)).state =
      (c.play (second.map fun i => (i.2.feed i.1).move)).state := by
  intro gamepad wheel fault c first second
  have same (lane : Lane) :
      (first.map Prod.snd).filter lane.holds = (second.map Prod.snd).filter lane.holds := by
    cases lane <;> rfl
  exact ⟨same, state_of_lanes {} true _ first second same⟩

end Console
end RobotConsole
