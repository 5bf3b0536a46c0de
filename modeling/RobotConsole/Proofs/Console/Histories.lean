import RobotConsole.Proofs.Console.Link
import RobotConsole.Proofs.Link.Silence

/-!
# The histories of a run

Of the telemetry and the log events of a run a console keeps the newest, and nothing that happens
in between takes one of them away or brings them out of order. The newest telemetry of the whole run
decides at each tick whether the link is down.
-/

namespace RobotConsole

/-! ## Observations -/

namespace Move

/-- The stamp of telemetry that shows the controller to be there. -/
def arrival? : Move -> Option Int
  | .apply now (.telemetry batch) =>
      if batch.kind ≠ .gamepad ∧ batch.disconnect = false then some (batch.timestampOr now) else none
  | _ => none

def logged? : Move -> Option LogEvent
  | .apply _ (.log event) => some event
  | _ => none

end Move

namespace Console

section

variable (c : Console)

/-! ## Histories -/

theorem modeChange?_arrival? (settled? : Option (Nat × Mode × Except Failure Unit)) :
    (settled?.bind modeChange?).bind LinkChange.arrival? = none := by
  rcases settled? with _ | ⟨task, mode, _ | _⟩ <;> rfl

theorem linkChange?_arrival? (m : Move) :
    (c.linkChange? m).bind LinkChange.arrival? = m.arrival? := by
  -- Only the mode changes depend on the console, and they are no arrivals.
  cases m with
  | apply now event => cases event with
    | telemetry batch =>
        have counts : Peripherals.countsAsArrival batch.kind batch.disconnect = true ↔
            batch.kind ≠ .gamepad ∧ batch.disconnect = false := by
          simp [Peripherals.countsAsArrival]
        simp only [linkChange?, Move.arrival?, counts]
        split <;> rfl
    | log event => rfl
  | start operation notice => exact modeChange?_arrival? (c.settled? (.start operation notice))
  | reply task wait answer => exact modeChange?_arrival? (c.settled? (.reply task wait answer))
  | _ => rfl

theorem step_logs (m : Move) :
    (c.step m).state.logs = m.logged?.elim c.state.logs c.state.logs.push := by
  refine (congrArg SessionState.logs (step_session c m)).trans ?_
  cases m with
  | apply now event => cases event <;> rfl
  | _ => rfl

end

section

variable (settings : Settings) (hasLogDisplay : Bool) (moves : List Move)

theorem arrivals_trace :
    ((fresh settings hasLogDisplay).trace linkChange? moves).filterMap LinkChange.arrival? =
      moves.filterMap Move.arrival? :=
  filterMap_trace linkChange? _ linkChange?_arrival? moves

theorem arrivals_play :
    ((fresh settings hasLogDisplay).play moves).state.link.arrivals.items =
      keepLast arrivalCapacity (moves.filterMap Move.arrival?) := by
  rw [link_play, Link.arrivals_play, arrivals_trace]

theorem logs_play :
    ((fresh settings hasLogDisplay).play moves).state.logs.items =
      keepLast logCapacity (moves.filterMap Move.logged?) := by
  induction moves using List.reverseRecOn with
  | nil => rfl
  | append_singleton moves m ih =>
      rw [play_snoc, step_logs]
      exact History.items_push_seen Move.logged? ih m

/-! ## Ticks -/

theorem down_tick_iff (now : Int) :
    (((fresh settings hasLogDisplay).play moves).step (.tick now)).state.link.status =
        .disconnected ↔
      (Link.play settings.health ((fresh settings hasLogDisplay).trace linkChange? moves ++
        [.tick now]) : Link Float).Quiet := by
  have ticked := link_play settings hasLogDisplay (moves ++ [.tick now])
  dsimp only at ticked
  rw [play_snoc, trace_snoc] at ticked
  rw [ticked]
  exact (Link.sound_play settings.health _).quiet_iff.symm

end

/-- Whatever happens in a run, the newest fifty arrivals and the newest two hundred log events of
it are kept, in order, and no tick changes them. A tick leaves the link down exactly if the newest
arrival of all, by its stamp and the difference that 64 bits have, is as old as the timeout in
doubles. That is the exact order of the two times wherever rounding makes no difference. -/
theorem histories_and_silence_of_run (settings : Settings) (hasLogDisplay : Bool)
    (moves : List Move) :
    let first := fresh settings hasLogDisplay
    let s := (first.play moves).state
    let stamps := moves.filterMap Move.arrival?
    let timeout := settings.health.disconnectTimeout
    s.link.arrivals.items = keepLast 50 stamps ∧
    s.logs.items = keepLast 200 (moves.filterMap Move.logged?) ∧
    forall now,
      let after := ((first.play moves).step (.tick now)).state
      after.link.arrivals = s.link.arrivals ∧ after.logs = s.logs ∧
      (after.link.status = .disconnected ↔ forall stamp, stamps.getLast? = some stamp ->
        ¬ Link.secondsBetween stamp now < timeout.toFloat) ∧
      (forall stamp, stamps.getLast? = some stamp -> timeout.Comparable (now - stamp) ->
        (after.link.status = .disconnected ↔ timeout.nanos ≤ 1000000 * (now - stamp))) := by
  intro first s stamps timeout
  refine ⟨arrivals_play settings hasLogDisplay moves, logs_play settings hasLogDisplay moves, ?_⟩
  intro now after
  have arrivals : after.link.arrivals = s.link.arrivals := by
    have ticked : after.link = s.link.tick now := step_link (first.play moves) (.tick now)
    rw [ticked]
    exact (Link.tick_frame s.link now).1
  have logs : after.logs = s.logs := step_logs (first.play moves) (.tick now)
  have newest : ((first.trace linkChange? moves).filterMap LinkChange.arrival?).getLast? =
      stamps.getLast? :=
    congrArg List.getLast? (arrivals_trace settings hasLogDisplay moves)
  have down := down_tick_iff settings hasLogDisplay moves now
  refine ⟨arrivals, logs, ?_, ?_⟩
  · rw [← newest]
    exact down.trans (Link.quiet_play_iff settings.health _ now)
  · intro stamp last comparable
    exact down.trans (Link.quiet_play_iff_of_comparable (newest.trans last) comparable)

/-- After telemetry and a silence of as long as the timeout, which is not a whole number of seconds,
the link is still up. -/
theorem not_down_at_timeout :
    ¬ forall (settings : Settings) (moves : List Move) (now : Int),
      (((fresh settings).play moves).step (.tick now)).state.link.status = .disconnected ↔
        forall stamp, (moves.filterMap Move.arrival?).getLast? = some stamp ->
          settings.health.disconnectTimeout.nanos ≤ 1000000 * (now - stamp) := by
  intro law
  let settings : Settings := { health := { disconnectTimeout := .ofMillis 1128 } }
  let moves : List Move := [.apply 0 (.telemetry { kind := .smartDevice, timestamp? := some 0 })]
  have down := (law settings moves 1128).2 (by
    rintro stamp ⟨⟩
    decide)
  have up : (((fresh settings).play moves).step (.tick 1128)).state.link.status = .unhealthy := by
    decide +kernel
  exact absurd (down.symm.trans up) (by decide)

end Console
end RobotConsole
