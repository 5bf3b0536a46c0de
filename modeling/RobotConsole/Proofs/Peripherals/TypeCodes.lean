import RobotConsole.Proofs.Device.Parts
import RobotConsole.Proofs.Peripherals.Listing

/-!
# Devices of one type

The type code is the first part of a device number. So the devices of one type are listed one right
after the other, if all devices of their kind have numbers that are made of parts.
-/

namespace RobotConsole
namespace Peripherals

section

variable {ps : Peripherals} (tidy : ps.Tidy) {kind : DeviceKind}

include tidy

theorem Tidy.ofKind_isInfix : ps.ofKind kind <:+: ps.sorted := by
  rw [tidy.sorted_eq_append]
  cases kind with
  | gamepad => exact ⟨[], ps.ofKind .smartDevice, rfl⟩
  | smartDevice => exact ⟨ps.ofKind .gamepad, [], List.append_nil _⟩

theorem Tidy.ofKind_ascending : (ps.ofKind kind).Pairwise fun p q =>
    p.id.device.number < q.id.device.number := by
  apply (tidy.sorted_ascending.filter _).imp_of_mem
  intro p q mem mem' before
  have kinds : p.id.kind = q.id.kind :=
    (of_decide_eq_true (List.mem_filter.1 mem).2).trans
      (of_decide_eq_true (List.mem_filter.1 mem').2).symm
  rcases before with ⟨gamepad, smartDevice⟩ | ⟨-, numbers⟩
  · rw [gamepad, smartDevice] at kinds
    cases kinds
  · exact numbers

theorem Tidy.filter_typeCode_isInfix
    (packed : forall p, p ∈ ps.ofKind kind -> p.id.device.number < Numeric.wordSize 88)
    (code : UInt16) :
    (ps.ofKind kind).filter (fun p => p.id.device.typeCode = code) <:+: ps.sorted := by
  have ascending : (ps.ofKind kind).Pairwise fun p q =>
      p.id.device.typeCode.toNat ≤ q.id.device.typeCode.toNat := by
    apply tidy.ofKind_ascending.imp_of_mem
    intro p q _ mem numbers
    exact DeviceId.typeCode_le_of_number_le (packed q mem) (Nat.le_of_lt numbers)
  have together := (filter_key_isInfix ascending code.toNat).trans tidy.ofKind_isInfix
  simp only [UInt16.toNat_inj] at together
  exact together

end

/-- A type code, a year and a random part are packed into a number side by side, and read back of
it. A number is packed of its parts if it has up to 88 bits; otherwise the bits above are lost.
Numbers that are packed of parts are in the order of the parts, the type code first. So in the
listing of a store nothing stands between devices of one type, as long as the numbers of their kind
are packed of parts. -/
theorem device_numbers_pack_parts_in_order :
    (forall code year random,
      (DeviceId.ofParts code year random).number =
          code.toNat <<< 72 ||| year.toNat <<< 64 ||| random.toNat ∧
        (DeviceId.ofParts code year random).typeCode = code ∧
        (DeviceId.ofParts code year random).year = year ∧
        (DeviceId.ofParts code year random).random = random) ∧
    (forall id : DeviceId,
      (DeviceId.ofParts id.typeCode id.year id.random).number =
          id.number % Numeric.wordSize 88 ∧
        (DeviceId.ofParts id.typeCode id.year id.random = id ↔
          id.number < Numeric.wordSize 88)) ∧
    (forall code year random code' year' random',
      compare (DeviceId.ofParts code year random) (DeviceId.ofParts code' year' random') = .lt ↔
        code < code' ∨ code = code' ∧ (year < year' ∨ year = year' ∧ random < random')) ∧
    forall (snapshots : List Snapshot) (kind : DeviceKind),
      (forall p, p ∈ (ofSnapshots snapshots).ofKind kind ->
        p.id.device.number < Numeric.wordSize 88) ->
      forall code, ((ofSnapshots snapshots).ofKind kind).filter
        (fun p => p.id.device.typeCode = code) <:+: (ofSnapshots snapshots).sorted := by
  refine ⟨?_, ?_, ?_, ?_⟩
  · intro code year random
    exact ⟨DeviceId.number_ofParts_eq_or code year random,
      DeviceId.parts_ofParts code year random⟩
  · intro id
    exact ⟨id.number_ofParts_parts, id.ofParts_parts_eq_iff⟩
  · intro code year random code' year' random'
    exact DeviceId.compare_ofParts_eq_lt_iff
  · intro snapshots kind packed code
    exact (tidy_ofSnapshots snapshots).filter_typeCode_isInfix packed code

/-- Two servos of different years, between a buzzer and a motor. -/
theorem device_numbers_pack_parts_in_order_of_servos :
    let samples : SampleMap :=
      [(.ofParts 2 9 9, []), (.ofParts 3 0 (-1), []), (.ofParts 3 1 0, []), (.ofParts 12 0 0, [])]
    let snapshot : Snapshot :=
      ⟨.smartDevice, 5, samples, false, by unfold Dict.Ascending; decide, by simp [samples, Dict.Ascending]⟩
    let ps := ofSnapshots [snapshot]
    (forall p, p ∈ ps.ofKind .smartDevice -> p.id.device.number < Numeric.wordSize 88) ∧
      (ps.ofKind .smartDevice).filter (fun p => p.id.device.typeCode = 3) <:+: ps.sorted := by
  intro samples snapshot ps
  have packed : forall p, p ∈ ps.ofKind .smartDevice ->
      p.id.device.number < Numeric.wordSize 88 := by
    decide
  exact ⟨packed, device_numbers_pack_parts_in_order.2.2.2 [snapshot] .smartDevice packed 3⟩

end Peripherals
end RobotConsole
