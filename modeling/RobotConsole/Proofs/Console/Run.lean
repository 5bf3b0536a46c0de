import Mathlib.Data.List.Induction
import RobotConsole.Proofs.Console.Step

/-!
# Runs

What is kept by every move is kept by every run. A run is observed move by move;
each observation is made on the console as the move finds it. In a run of events and
ticks alone, all that matters of the console is its session.
-/

namespace RobotConsole

inductive Feed where
  | event (now : Int) (event : TransportEvent)
  | tick (now : Int)

def Feed.move : Feed -> Move
  | event now e => .apply now e
  | tick now => .tick now

def SessionState.feed (s : SessionState) : Feed -> SessionState
  | .event now (.telemetry batch) => s.applyBatch now batch
  | .event _ (.log event) => s.applyLog event
  | .tick now => s.tick now

namespace Console

/-- What is seen of a run, one thing at most for each move. -/
def trace {α : Type} (observe : Console -> Move -> Option α) (c : Console) : List Move -> List α
  | [] => []
  | m :: rest => (observe c m).toList ++ (c.step m).trace observe rest

/-- What a run makes of something that every move changes. -/
def follow {β : Type} (next : Console -> Move -> β -> β) (c : Console) (b : β) : List Move -> β
  | [] => b
  | m :: rest => (c.step m).follow next (next c m b) rest

section

variable {α : Type} (observe : Console -> Move -> Option α) (c : Console)

@[simp] theorem play_nil : c.play [] = c := rfl

@[simp] theorem play_cons (m : Move) (rest : List Move) :
    c.play (m :: rest) = (c.step m).play rest := rfl

theorem play_snoc (moves : List Move) (m : Move) :
    c.play (moves ++ [m]) = (c.play moves).step m :=
  play_append c moves [m]

@[simp] theorem trace_nil : c.trace observe [] = [] := rfl

theorem trace_append (first second : List Move) :
    c.trace observe (first ++ second) =
      c.trace observe first ++ (c.play first).trace observe second := by
  induction first generalizing c with
  | nil => rfl
  | cons m rest ih => simp [trace, ih]

theorem trace_snoc (moves : List Move) (m : Move) :
    c.trace observe (moves ++ [m]) =
      c.trace observe moves ++ (observe (c.play moves) m).toList := by
  rw [trace_append]
  simp [trace]

theorem filterMap_trace {β : Type} {see : α -> Option β} {direct : Move -> Option β}
    (same : forall c m, (observe c m).bind see = direct m) (moves : List Move) :
    (c.trace observe moves).filterMap see = moves.filterMap direct := by
  induction moves generalizing c with
  | nil => rfl
  | cons m rest ih =>
      rw [trace, List.filterMap_append, ih, List.filterMap_cons, ← same c m]
      cases seen : observe c m with
      | none => rfl
      | some a =>
          simp only [Option.toList_some, List.filterMap_cons, List.filterMap_nil, Option.bind_some]
          cases see a <;> rfl

theorem follow_snoc {β : Type} (next : Console -> Move -> β -> β) (b : β) (moves : List Move)
    (m : Move) :
    c.follow next b (moves ++ [m]) = next (c.play moves) m (c.follow next b moves) := by
  induction moves generalizing c b with
  | nil => rfl
  | cons m' rest ih => exact ih (c.step m') (next c m' b)

theorem play_keeps {P : Console -> Prop} (keeps : forall c m, P c -> P (c.step m))
    {c : Console} (h : P c) (moves : List Move) : P (c.play moves) := by
  induction moves generalizing c with
  | nil => exact h
  | cons m rest ih => exact ih (keeps c m h)

/-! ## Feeds -/

theorem state_feed (f : Feed) : (c.step f.move).state = c.state.feed f := by
  cases f with
  | event now event => cases event with
    | telemetry batch => simp [Feed.move, step, apply, applyBatch, SessionState.feed]
    | log event => simp [Feed.move, step, apply, applyLog, SessionState.feed]
  | tick now => simp [Feed.move, step, tick, SessionState.feed]

theorem state_play_feeds (feeds : List Feed) :
    (c.play (feeds.map Feed.move)).state = feeds.foldl SessionState.feed c.state := by
  induction feeds generalizing c with
  | nil => rfl
  | cons f rest ih => rw [List.map_cons, play_cons, ih, state_feed, List.foldl_cons]

/-! ## What no move changes -/

theorem play_settings (moves : List Move) : (c.play moves).settings = c.settings := by
  induction moves generalizing c with
  | nil => rfl
  | cons m rest ih => exact (ih (c.step m)).trans (step_settings c m)

theorem play_hasLogDisplay (moves : List Move) :
    (c.play moves).hasLogDisplay = c.hasLogDisplay := by
  induction moves generalizing c with
  | nil => rfl
  | cons m rest ih => exact (ih (c.step m)).trans (step_hasLogDisplay c m)

theorem numbered_fresh (settings : Settings) (hasLogDisplay : Bool) :
    (fresh settings hasLogDisplay).Numbered := by
  intro task _
  rfl

theorem Numbered.play {c : Console} (h : c.Numbered) (moves : List Move) :
    (c.play moves).Numbered :=
  play_keeps (P := Numbered) (fun _ m h => Numbered.step h m) h moves

end

end Console
end RobotConsole
