import Mathlib.Data.List.Induction
import RobotConsole.Proofs.Link.Sound

/-!
# Runs of a link

What remains of the changes that a link has gone through: the newest arrivals, and the times
that it was made with.
-/

namespace RobotConsole

inductive LinkChange where
  | arrival (timestamp : Int)
  | tick (now : Int)
  | log (event : LogEvent)
  | mode (requested : Mode)
  | alliance (alliance : Option Alliance)

namespace LinkChange

def arrival? : LinkChange -> Option Int
  | arrival timestamp => some timestamp
  | _ => none

def tick? : LinkChange -> Option Int
  | tick now => some now
  | _ => none

end LinkChange

namespace Link

variable {α : Type} [RateScalar α]

def change (link : Link α) : LinkChange -> Link α
  | .arrival timestamp => link.recordArrival timestamp
  | .tick now => link.tick now
  | .log event => link.noteLog event
  | .mode requested => link.applyMode requested
  | .alliance alliance => link.setAlliance alliance

def play (settings : HealthSettings) (changes : List LinkChange) : Link α :=
  changes.foldl change (fresh settings)

theorem play_concat (settings : HealthSettings) (changes : List LinkChange) (c : LinkChange) :
    (play settings (changes ++ [c]) : Link α) = (play settings changes).change c := by
  unfold play
  rw [List.foldl_append]
  rfl

section

variable (link : Link α)

omit [RateScalar α] in
theorem noteLog_frame (event : LogEvent) :
    (link.noteLog event).arrivals = link.arrivals ∧
      (link.noteLog event).disconnectTimeout = link.disconnectTimeout ∧
      (link.noteLog event).expectedInterval = link.expectedInterval := by
  unfold noteLog
  split <;> exact ⟨rfl, rfl, rfl⟩

omit [RateScalar α] in
theorem applyMode_frame (requested : Mode) :
    (link.applyMode requested).arrivals = link.arrivals ∧
      (link.applyMode requested).disconnectTimeout = link.disconnectTimeout ∧
      (link.applyMode requested).expectedInterval = link.expectedInterval := by
  unfold applyMode
  split
  · exact ⟨rfl, rfl, rfl⟩
  · cases requested <;> exact ⟨rfl, rfl, rfl⟩

theorem tick_frame (now : Int) :
    (link.tick now).arrivals = link.arrivals ∧
      (link.tick now).disconnectTimeout = link.disconnectTimeout ∧
      (link.tick now).expectedInterval = link.expectedInterval := by
  unfold tick
  dsimp only
  split <;> exact ⟨rfl, rfl, rfl⟩

theorem change_arrivals (c : LinkChange) :
    (link.change c).arrivals = c.arrival?.elim link.arrivals link.arrivals.push := by
  cases c with
  | arrival timestamp => rfl
  | tick now => exact (link.tick_frame now).1
  | log event => exact (link.noteLog_frame event).1
  | mode requested => exact (link.applyMode_frame requested).1
  | alliance alliance => rfl

theorem change_disconnectTimeout (c : LinkChange) :
    (link.change c).disconnectTimeout = link.disconnectTimeout := by
  cases c with
  | arrival timestamp => rfl
  | tick now => exact (link.tick_frame now).2.1
  | log event => exact (link.noteLog_frame event).2.1
  | mode requested => exact (link.applyMode_frame requested).2.1
  | alliance alliance => rfl

theorem change_expectedInterval (c : LinkChange) :
    (link.change c).expectedInterval = link.expectedInterval := by
  cases c with
  | arrival timestamp => rfl
  | tick now => exact (link.tick_frame now).2.2
  | log event => exact (link.noteLog_frame event).2.2
  | mode requested => exact (link.applyMode_frame requested).2.2
  | alliance alliance => rfl

end

theorem Sound.change {link : Link α} (h : link.Sound) (c : LinkChange) : (link.change c).Sound := by
  cases c with
  | arrival timestamp => exact h.recordArrival timestamp
  | tick now => exact h.tick now
  | log event => exact h.noteLog event
  | mode requested => exact h.applyMode requested
  | alliance alliance => exact h.setAlliance alliance

section

variable (settings : HealthSettings) (changes : List LinkChange)

theorem sound_play : (play settings changes : Link α).Sound := by
  induction changes using List.reverseRecOn with
  | nil => exact sound_fresh settings
  | append_singleton changes c ih =>
      rw [play_concat]
      exact ih.change c

theorem disconnectTimeout_play :
    (play settings changes : Link α).disconnectTimeout = settings.disconnectTimeout := by
  induction changes using List.reverseRecOn with
  | nil => rfl
  | append_singleton changes c ih =>
      rw [play_concat, change_disconnectTimeout]
      exact ih

theorem arrivals_play :
    (play settings changes : Link α).arrivals.items =
      keepLast arrivalCapacity (changes.filterMap LinkChange.arrival?) := by
  induction changes using List.reverseRecOn with
  | nil => rfl
  | append_singleton changes c ih =>
      rw [play_concat, change_arrivals]
      exact History.items_push_seen LinkChange.arrival? ih c

theorem latest?_play :
    (play settings changes : Link α).arrivals.latest? =
      (changes.filterMap LinkChange.arrival?).getLast? := by
  unfold History.latest?
  rw [arrivals_play, getLast?_keepLast (by decide)]

end

end Link
end RobotConsole
