import RobotConsole.Proofs.Device.Order

/-!
# Parts of device numbers

A type code, a year and a random part fill the 88 lowest bits of a device number and do not
overlap. So they are read back of it, and device numbers that have nothing above these bits are
ordered by type code, then by year, then by the random part.
-/

namespace RobotConsole
namespace DeviceId

/-! ## Parts of a number -/

section

variable (id : DeviceId)

theorem toNat_typeCode :
    id.typeCode.toNat = id.number / Numeric.wordSize 72 % Numeric.wordSize 16 := by
  unfold typeCode
  rw [UInt16.toNat_ofNat', Nat.shiftRight_eq_div_pow]
  rfl

theorem toNat_year : id.year.toNat = id.number / Numeric.wordSize 64 % Numeric.wordSize 8 := by
  unfold year
  rw [UInt8.toNat_ofNat', Nat.shiftRight_eq_div_pow]
  rfl

theorem toNat_random : id.random.toNat = id.number % Numeric.wordSize 64 := by
  unfold random
  rw [UInt64.toNat_ofNat']
  rfl

end

/-! ## Numbers of parts -/

section

variable (code : UInt16) (year : UInt8) (random : UInt64)

theorem number_ofParts : (ofParts code year random).number =
    code.toNat * Numeric.wordSize 72 + year.toNat * Numeric.wordSize 64 + random.toNat := by
  unfold ofParts
  dsimp only
  rw [Nat.shiftLeft_eq, Nat.shiftLeft_eq]
  rfl

/-- The parts do not overlap. -/
theorem number_ofParts_eq_or : (ofParts code year random).number =
    code.toNat <<< 72 ||| year.toNat <<< 64 ||| random.toNat := by
  have low : year.toNat <<< 64 + random.toNat < 2 ^ 72 := by
    have := year.toNat_lt
    have := random.toNat_lt
    omega
  unfold ofParts
  dsimp only
  rw [Nat.add_assoc, Nat.shiftLeft_add_eq_or_of_lt low,
    Nat.shiftLeft_add_eq_or_of_lt random.toNat_lt, Nat.or_assoc]

theorem parts_ofParts : (ofParts code year random).typeCode = code ∧
    (ofParts code year random).year = year ∧ (ofParts code year random).random = random := by
  have codes := code.toNat_lt
  have years := year.toNat_lt
  have randoms := random.toNat_lt
  rw [← UInt16.toNat_inj, ← UInt8.toNat_inj, ← UInt64.toNat_inj, toNat_typeCode, toNat_year,
    toNat_random, number_ofParts]
  simp only [Numeric.wordSize, Nat.one_shiftLeft]
  omega

end

theorem number_ofParts_parts (id : DeviceId) :
    (ofParts id.typeCode id.year id.random).number = id.number % Numeric.wordSize 88 := by
  rw [number_ofParts, toNat_typeCode, toNat_year, toNat_random]
  simp only [Numeric.wordSize, Nat.one_shiftLeft]
  omega

theorem ofParts_parts_eq_iff (id : DeviceId) :
    ofParts id.typeCode id.year id.random = id ↔ id.number < Numeric.wordSize 88 := by
  constructor
  · intro same
    rw [← same, number_ofParts_parts]
    exact Nat.mod_lt _ (by decide)
  · intro small
    apply ext_number
    rw [number_ofParts_parts, Nat.mod_eq_of_lt small]

/-! ## Order -/

theorem compare_ofParts_eq_lt_iff {code code' : UInt16} {year year' : UInt8}
    {random random' : UInt64} :
    compare (ofParts code year random) (ofParts code' year' random') = .lt ↔
      code < code' ∨ code = code' ∧ (year < year' ∨ year = year' ∧ random < random') := by
  have years := year.toNat_lt
  have years' := year'.toNat_lt
  have randoms := random.toNat_lt
  have randoms' := random'.toNat_lt
  have numbers : compare (ofParts code year random) (ofParts code' year' random') = .lt ↔
      (ofParts code year random).number < (ofParts code' year' random').number :=
    Nat.compare_eq_lt
  rw [numbers, number_ofParts, number_ofParts, UInt16.lt_iff_toNat_lt, UInt8.lt_iff_toNat_lt,
    UInt64.lt_iff_toNat_lt, ← UInt16.toNat_inj, ← UInt8.toNat_inj]
  simp only [Numeric.wordSize, Nat.one_shiftLeft]
  omega

theorem typeCode_le_of_number_le {a b : DeviceId} (small : b.number < Numeric.wordSize 88)
    (numbers : a.number ≤ b.number) : a.typeCode.toNat ≤ b.typeCode.toNat := by
  rw [toNat_typeCode, toNat_typeCode]
  simp only [Numeric.wordSize, Nat.one_shiftLeft] at small ⊢
  omega

end DeviceId
end RobotConsole
