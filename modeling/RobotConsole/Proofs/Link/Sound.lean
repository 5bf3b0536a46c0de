import RobotConsole.Proofs.Console.Published

/-!
# What is true of every link

A link that is down reads as idle and without a fault, no link is ever in the mode of an
emergency stop, and the arrivals that are kept are bounded. Every change of a link keeps
this, in whatever state it finds the link, so it is true of all states that a console
publishes.
-/

namespace RobotConsole
namespace Link

section

variable {α : Type} {link : Link α}

structure Sound (link : Link α) : Prop where
  quiet : link.status = .disconnected -> link.mode = .idle ∧ link.errorFlag = false
  mode : link.mode ≠ .emergencyStop
  arrivals : link.arrivals.size ≤ arrivalCapacity

theorem sound_fresh [RateScalar α] (settings : HealthSettings) :
    (fresh settings : Link α).Sound where
  quiet := by
    intro _
    exact ⟨rfl, rfl⟩
  mode := by
    intro stopped
    cases stopped
  arrivals := Nat.zero_le _

theorem Sound.recordArrival (h : link.Sound) (timestamp : Int) :
    (link.recordArrival timestamp).Sound where
  quiet := h.quiet
  mode := h.mode
  arrivals := by
    show (link.arrivals.push timestamp).items.length ≤ arrivalCapacity
    rw [History.items_push, length_keepLast]
    exact Nat.min_le_left _ _

theorem Sound.setAlliance (h : link.Sound) (alliance : Option Alliance) :
    (link.setAlliance alliance).Sound :=
  ⟨h.quiet, h.mode, h.arrivals⟩

theorem isDown_iff : link.isDown ↔ link.status = .disconnected :=
  decide_eq_true_iff

theorem Sound.noteLog (h : link.Sound) (event : LogEvent) : (link.noteLog event).Sound := by
  unfold Link.noteLog
  split
  · rename_i fault
    have up : ¬ link.status = .disconnected := fun down => fault.2 (isDown_iff.2 down)
    constructor
    · intro down
      exact absurd down up
    · exact h.mode
    · exact h.arrivals
  · exact h

theorem Sound.applyMode (h : link.Sound) (requested : Mode) :
    (link.applyMode requested).Sound := by
  unfold Link.applyMode
  split
  · constructor
    · intro _
      exact ⟨rfl, rfl⟩
    · intro stopped
      cases stopped
    · exact h.arrivals
  · rename_i up
    have up : ¬ link.status = .disconnected := fun down => up (isDown_iff.2 down)
    cases requested <;>
      exact ⟨fun down => absurd down up, fun stopped => (by cases stopped), h.arrivals⟩

theorem Sound.tick [RateScalar α] (h : link.Sound) (now : Int) : (link.tick now).Sound := by
  unfold Link.tick
  dsimp only
  split
  · constructor
    · intro down
      dsimp only at down
      split at down <;> cases down
    · exact h.mode
    · exact h.arrivals
  · constructor
    · intro _
      exact ⟨rfl, rfl⟩
    · intro stopped
      cases stopped
    · exact h.arrivals

end

end Link

/-! ## The link of a session -/

theorem SessionState.kept_sound : SessionState.Kept fun s => s.link.Sound where
  editor _ h := h
  dialog _ h := h
  alliance alliance h := h.setAlliance alliance
  mode mode h := h.applyMode mode
  batch := by
    intro s now batch h
    show Link.Sound (if _ then _ else _)
    split
    · exact h.recordArrival _
    · exact h
  log event h := h.noteLog event
  tick now h := h.tick now

/-- Whatever happens to a console, this is true of the link in every state it shows. -/
theorem Console.seen_link_sound (settings : Settings) (hasLogDisplay : Bool) (moves : List Move)
    (s : SessionState) (seen : ((fresh settings hasLogDisplay).play moves).Seen s) :
    (s.link.status = .disconnected -> s.link.mode = .idle ∧ s.link.errorFlag = false) ∧
      s.link.mode ≠ .emergencyStop ∧ s.link.arrivals.size ≤ 50 := by
  have sound : s.link.Sound :=
    shows_play SessionState.kept_sound (Link.sound_fresh settings.health) hasLogDisplay moves s seen
  exact ⟨sound.quiet, sound.mode, sound.arrivals⟩

/-- A program is started while the link is down, and the controller reports a fault before its
reply comes. The state that is published with the fault is one of those. -/
theorem Console.seen_link_sound_of_fault :
    let moves : List Move := [.start (.changeMode .auto) (.ok ()),
      .apply 7 (.log { timestamp := 7, level := .error, message := "overheated" })]
    let s := ((fresh {} true).play moves).state
    ((fresh {} true).play (moves ++ [.reply 1 (.invoke .auto) (.ok ())])).Seen s ∧
      (s.link.status = .disconnected -> s.link.mode = .idle ∧ s.link.errorFlag = false) ∧
      s.link.mode ≠ .emergencyStop ∧ s.link.arrivals.size ≤ 50 := by
  intro moves s
  have seen : ((fresh {} true).play (moves ++ [.reply 1 (.invoke .auto) (.ok ())])).Seen s := by
    apply Or.inr
    exact List.mem_of_getElem? (i := 5) rfl
  exact ⟨seen, seen_link_sound {} true _ s seen⟩

end RobotConsole
