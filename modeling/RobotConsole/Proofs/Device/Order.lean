import RobotConsole.Device.Basic

/-!
# The order of devices

Devices are ordered by their numbers, and peripherals by kind and number. Both orders are
total, and only equal things compare as equal, so dictionaries can have them as keys.
-/

namespace RobotConsole

theorem DeviceKind.rank_injective {first second : DeviceKind} (h : first.rank = second.rank) :
    first = second := by
  cases first <;> cases second <;> first | rfl | cases h

namespace DeviceId

theorem ext_number {first second : DeviceId} (h : first.number = second.number) :
    first = second := by
  cases first
  cases second
  cases h
  rfl

instance : Std.TransOrd DeviceId :=
  inferInstanceAs (Std.TransCmp (compareOn DeviceId.number))

instance : Std.LawfulEqOrd DeviceId where
  eq_of_compare {first second} h := by
    have same : compare first.number second.number = .eq := h
    exact ext_number (Std.LawfulEqOrd.eq_of_compare same)

end DeviceId

namespace PeripheralId

instance : Std.TransOrd PeripheralId :=
  inferInstanceAs (Std.TransCmp (compareLex (compareOn fun id : PeripheralId => id.kind.rank)
    (compareOn fun id : PeripheralId => id.device.number)))

instance : Std.LawfulEqOrd PeripheralId where
  eq_of_compare {first second} h := by
    have both : compare first.kind.rank second.kind.rank = .eq ∧
        compare first.device.number second.device.number = .eq :=
      Ordering.then_eq_eq.1 h
    have kind := DeviceKind.rank_injective (Std.LawfulEqOrd.eq_of_compare both.1)
    have device := DeviceId.ext_number (Std.LawfulEqOrd.eq_of_compare both.2)
    cases first
    cases second
    cases kind
    cases device
    rfl

/-- Gamepads come before smart devices, and devices of a kind in the order of their numbers. -/
def Before (a b : PeripheralId) : Prop :=
  a.kind = .gamepad ∧ b.kind = .smartDevice ∨ a.kind = b.kind ∧ a.device.number < b.device.number

theorem before_of_compare {a b : PeripheralId} (less : compare a b = .lt) : Before a b := by
  have less : (compare a.kind.rank b.kind.rank).then
      (compare a.device.number b.device.number) = .lt := less
  rw [Ordering.then_eq_lt, Nat.compare_eq_lt, Nat.compare_eq_eq, Nat.compare_eq_lt] at less
  rcases less with kinds | ⟨kinds, numbers⟩
  · refine .inl ?_
    cases ka : a.kind <;> cases kb : b.kind <;> rw [ka, kb] at kinds
    · exact absurd kinds (by decide)
    · exact ⟨rfl, rfl⟩
    · exact absurd kinds (by decide)
    · exact absurd kinds (by decide)
  · exact .inr ⟨DeviceKind.rank_injective kinds, numbers⟩

end PeripheralId

end RobotConsole
