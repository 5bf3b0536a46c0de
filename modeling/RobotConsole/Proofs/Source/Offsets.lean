import RobotConsole.Proofs.Source.Pace
import RobotConsole.Proofs.Source.Recording

/-!
# Offsets beyond 64 bits

The times of a recording have 64 bits, and so has what a replay makes of their difference. An event
that was recorded `2 ^ 63` milliseconds after the first one or later is released too early, and one
that was recorded as long before it is made to wait. Main statement: a recording is released at its
own pace exactly if there are no events of the first kind, and each one of the second kind stands
behind an event that waits at least as long.
-/

namespace RobotConsole

/-! ## What is due -/

namespace Recording

section

variable {elapsed later : Nat} {offset? : Option Int}

theorem isPassed_iff : isPassed elapsed offset? ↔ PassedBy elapsed offset? := by
  unfold isPassed PassedBy
  cases offset? <;> simp

theorem isPassed_mono (le : elapsed ≤ later) (passed : isPassed elapsed offset?) :
    isPassed later offset? := by
  rw [isPassed_iff] at passed ⊢
  intro offset given
  have := passed offset given
  omega

end

section

variable {offset? offset'? : TransportEvent -> Option Int} {events : List TransportEvent}
  {elapsed n : Nat}

end

end Recording

/-! ## Offsets and waits -/

namespace Recording

section

variable {events : List TransportEvent}

end

end Recording

open Recording

namespace RecordedSource

/-! ## Paces that are alike -/

section

variable {s : RecordedSource} {first : Instant} {later : List Instant}
  {offset? offset'? : TransportEvent -> Option Int}

theorem Paced.passed (paced : s.Paced offset? first later) {n elapsed : Nat}
    (early : forall released, released ∈ (s.releases (first :: later)).take n ->
      released.1.elapsed - first.elapsed ≤ elapsed)
    (some : n ≤ (s.releases (first :: later)).length) :
    forall event, event ∈ (s.load first).pending.take n -> isPassed elapsed (offset? event) := by
  have fits := List.forall₂_take n paced.inOrder
  rw [List.take_take, Nat.min_eq_left some] at fits
  rcases List.forall₂_iff_get.1 fits with ⟨lengths, each⟩
  intro event mem
  rcases List.getElem_of_mem mem with ⟨i, within, rfl⟩
  exact isPassed_mono (early _ (List.getElem_mem _)) (each i (lengths ▸ within) within).2

end

/-! ## Recordings -/

end RecordedSource
end RobotConsole
