import RobotConsole.Proofs.Numeric.Doubles

/-!
# Products of doubles

A product of doubles, and the double of a natural times a power of ten, are next to the exact number
as long as that does not overflow.
-/

namespace RobotConsole
namespace Numeric

open Float.Model (Format UnpackedFloat totalExponent)
open Float.Model.UnpackedFloat

section

variable {x y : Float} {p q : Rat}

theorem Normal.le_exponent {m : Nat} {e : Int} (normal : Normal m e) (low : 1 ≤ (m : Rat) * 2 ^ e) :
    -52 ≤ e := by
  have less : (2 : Rat) ^ (0 : Int) < 2 ^ (53 + e) := by
    rw [zpow_zero]
    exact low.trans_lt normal.bounds.2
  have := (zpow_lt_zpow_iff_right₀ one_lt_two).1 less
  omega

theorem exists_log2 {n : Nat} (full : 2 ^ 52 ≤ n) : exists k, n.log2 = 52 + k := by
  have := (Nat.le_log2 (by omega)).2 full
  exact ⟨n.log2 - 52, by omega⟩

theorem HasMagnitude.mul (h : HasMagnitude x .positive p) (h' : HasMagnitude y .positive q)
    (low : 1 ≤ p) (low' : 1 ≤ q) (below : p * q < overflow) :
    exists e v, HasMagnitude (x * y) .positive v ∧ Nearest e (p * q) v := by
  obtain ⟨m, e, pos, normal, unpacked, rfl⟩ := h
  obtain ⟨m', e', pos', normal', unpacked', rfl⟩ := h'
  have least := normal.le_exponent low
  have least' := normal'.le_exponent low'
  have value : (m : Rat) * 2 ^ e * (m' * 2 ^ e') = (m * m' : Nat) * 2 ^ (e + e') := by
    rw [zpow_add₀ two_ne_zero]
    push_cast
    ring
  rw [value] at below ⊢
  obtain ⟨k, log⟩ := exists_log2 (normal.low.trans (Nat.le_mul_of_pos_right m pos'))
  obtain ⟨m₁, e₁, pos₁, normal₁, rounded, near⟩ := roundWithAccuracy_nearest_of_lt
    (describes_exact (m * m')) log (by omega) below .positive
  have product : x * y = .ofModel (.pack (.finite .positive m₁ e₁ pos₁)) := by
    show Float.ofModel (.pack (UnpackedFloat.mul Format.binary64 x.toModel.unpack
      y.toModel.unpack)) = _
    rw [unpacked, unpacked']
    exact congrArg (Float.ofModel ∘ .pack) rounded
  rw [product]
  exact ⟨_, _, hasMagnitude_pack normal₁ .positive pos₁, near⟩

end

/-! ## Powers of ten -/

/-- What the significand of a power of ten has beyond the power of five. -/
def powerShift (k : Nat) : Nat :=
  52 - (5 ^ k).log2

theorem power_pos (k : Nat) : 0 < 5 ^ k * 2 ^ powerShift k :=
  Nat.mul_pos (Nat.pow_pos (by decide)) (Nat.two_pow_pos _)

theorem normal_power :
    forall k : Fin 23, Normal (5 ^ k.val * 2 ^ powerShift k) (k - powerShift k) := by
  have bounds : forall k : Fin 23, 2 ^ 52 ≤ 5 ^ k.val * 2 ^ powerShift k ∧
      5 ^ k.val * 2 ^ powerShift k < 2 ^ 53 ∧ powerShift k ≤ 52 := by
    decide +kernel
  intro k
  obtain ⟨low, high, shift⟩ := bounds k
  exact ⟨low, high, by omega, by omega⟩

theorem toBits_power : forall k : Fin 23, Float.exactlyRepresentablePowersOfTen[k].toBits =
    (Float.Model.pack (.finite .positive _ (k - powerShift k) (power_pos k))).toBits := by
  decide +kernel

theorem eq_of_toBits {x y : Float} (same : x.toBits = y.toBits) : x = y := by
  obtain ⟨⟨bits, valid⟩⟩ := x
  obtain ⟨⟨bits', valid'⟩⟩ := y
  cases same
  rfl

theorem hasMagnitude_power (k : Fin 23) :
    HasMagnitude Float.exactlyRepresentablePowersOfTen[k] .positive ((10 ^ k.val : Nat) : Rat) := by
  have value : ((10 ^ k.val : Nat) : Rat) =
      (5 ^ k.val * 2 ^ powerShift k : Nat) * 2 ^ (k - powerShift k : Int) := by
    rw [zpow_sub₀ two_ne_zero, zpow_natCast, zpow_natCast, show 10 = 5 * 2 by rfl, mul_pow]
    push_cast
    field_simp
  rw [eq_of_toBits (toBits_power k), value]
  exact hasMagnitude_pack (normal_power k) .positive (power_pos k)

theorem hasMagnitude_ofScientific {m k : Nat} (positive : 0 < m) (short : k ≤ 308)
    (below : ((m * 10 ^ k : Nat) : Rat) < overflow) :
    exists e v, HasMagnitude (Float.ofScientific m false k) .positive v ∧
      Nearest e ((m * 10 ^ k : Nat) : Rat) v := by
  unfold Float.ofScientific
  split
  · rename_i exact
    obtain ⟨small, few⟩ := exact
    have word : m.toUInt64.toNat = m := Nat.mod_eq_of_lt (small.trans (by decide))
    have whole := hasMagnitude_toFloat (n := m.toUInt64) (by omega) (by omega)
    rw [word] at whole
    have power := hasMagnitude_power ⟨k, Nat.lt_succ_of_le few⟩
    rw [Nat.cast_mul] at below ⊢
    exact whole.mul power (by exact_mod_cast positive)
      (by exact_mod_cast Nat.pow_pos (n := k) (show 0 < 10 by decide)) below
  · have unpacked : UnpackedFloat.ofScientific Format.binary64 m k =
        roundWithAccuracy Format.binary64 .positive (m <<< 53 * 10 ^ k) (-53) .exact := by
      unfold UnpackedFloat.ofScientific
      rw [dif_neg positive.ne', if_neg (by show ¬ (k : Int) > 2 ^ 11; omega),
        if_neg (by show ¬ (k : Int) < -(2 ^ 11 + _); omega), if_pos (Int.natCast_nonneg k)]
      rfl
    rw [Nat.shiftLeft_eq] at unpacked
    have value : ((m * 10 ^ k : Nat) : Rat) = (m * 2 ^ 53 * 10 ^ k : Nat) * 2 ^ (-53 : Int) := by
      rw [zpow_neg]
      push_cast
      norm_num
      ring
    rw [value] at below ⊢
    have full : 2 ^ 52 ≤ m * 2 ^ 53 * 10 ^ k := by
      have power : 0 < 10 ^ k := Nat.pow_pos (by decide)
      calc 2 ^ 52 ≤ 1 * 2 ^ 53 * 1 := by decide
        _ ≤ m * 2 ^ 53 * 10 ^ k := Nat.mul_le_mul (Nat.mul_le_mul_right _ positive) power
    obtain ⟨j, log⟩ := exists_log2 full
    obtain ⟨m₁, e₁, pos₁, normal₁, rounded, near⟩ := roundWithAccuracy_nearest_of_lt
      (describes_exact _) log (by decide) below .positive
    refine ⟨_, _, ?_, near⟩
    show HasMagnitude (.ofModel (.pack (UnpackedFloat.ofScientific Format.binary64 m k))) _ _
    rw [unpacked, rounded]
    exact hasMagnitude_pack normal₁ .positive pos₁

/-! ## Errors -/

/-- The relative error of rounding up. -/
theorem Nearest.le_mul {e : Int} {p v : Rat} (h : Nearest e p v) :
    v ≤ p * (1 + 1 / 2 ^ 53) := by
  obtain ⟨a, r, full, floor, _, rfl, rounded⟩ := h
  have unit : (0 : Rat) < 2 ^ e := by positivity
  have full : (2 : Rat) ^ 52 ≤ a := by exact_mod_cast full
  have most : (2 : Rat) ^ e * 2 ^ 52 ≤ p := by nlinarith
  rcases rounded with rfl | ⟨rfl, upper⟩
  · linarith
  · push_cast
    linarith

theorem Nearest.ge_one {e : Int} {n : Nat} {v : Rat} (h : Nearest e n v) (positive : 0 < n) :
    1 ≤ v := by
  rcases le_or_gt e 0 with fine | coarse
  · obtain ⟨c, whole⟩ := exists_multiple n fine
    have least := h.multiple_le whole.ge
    have positive : (1 : Rat) ≤ n := by exact_mod_cast positive
    linarith
  · obtain ⟨a, r, full, _, _, rfl, rounded⟩ := h
    have most : 1 ≤ r := by
      rcases rounded with rfl | ⟨rfl, _⟩ <;> omega
    have most : (1 : Rat) ≤ r := by exact_mod_cast most
    exact one_le_mul_of_one_le_of_one_le most (one_le_zpow₀ one_le_two coarse.le)

theorem HasMagnitude.not_isInf {x : Float} {sign : Sign} {q : Rat} (h : HasMagnitude x sign q) :
    x.isInf = false := by
  obtain ⟨m, e, pos, _, unpacked, _⟩ := h
  show x.toModel.unpack.isInf = false
  rw [unpacked]
  rfl

theorem not_isInf_mul_power {n k : Nat} (positive : 0 < n) (short : k ≤ 308)
    (below : ((n * 10 ^ k : Nat) : Rat) * (1 + 1 / 2 ^ 53) ^ 2 < overflow) :
    (Float.ofNat n * Float.ofScientific 1 false k).isInf = false := by
  have one : (1 : Rat) ≤ n := by exact_mod_cast positive
  have power : (1 : Rat) ≤ 10 ^ k := one_le_pow₀ (by norm_num)
  have factor : (1 : Rat) ≤ (1 + 1 / 2 ^ 53) ^ 2 := by norm_num
  push_cast at below
  have most : (n : Rat) * 10 ^ k < overflow := by
    refine lt_of_le_of_lt ?_ below
    exact le_mul_of_one_le_right (by positivity) factor
  have first : ((n * 10 ^ 0 : Nat) : Rat) < overflow := by
    rw [pow_zero, mul_one]
    exact (le_mul_of_one_le_right (by positivity) power).trans_lt most
  have second : ((1 * 10 ^ k : Nat) : Rat) < overflow := by
    push_cast
    exact (mul_le_mul_of_nonneg_right one (by positivity)).trans_lt most
  obtain ⟨e, v, whole, near⟩ := hasMagnitude_ofScientific positive (Nat.zero_le 308) first
  obtain ⟨e', v', ten, near'⟩ := hasMagnitude_ofScientific Nat.one_pos short second
  have low := near.ge_one (Nat.mul_pos positive (Nat.pow_pos (by decide)))
  have low' := near'.ge_one (Nat.mul_pos Nat.one_pos (Nat.pow_pos (by decide)))
  have high := near.le_mul
  have high' := near'.le_mul
  rw [pow_zero, mul_one] at high
  rw [one_mul] at high'
  push_cast at high'
  obtain ⟨_, _, product, _⟩ := whole.mul ten low low' <| calc
    v * v' ≤ n * (1 + 1 / 2 ^ 53) * (10 ^ k * (1 + 1 / 2 ^ 53)) :=
        mul_le_mul high high' (by linarith) (by positivity)
    _ = n * 10 ^ k * (1 + 1 / 2 ^ 53) ^ 2 := by ring
    _ < overflow := below
  exact product.not_isInf

end Numeric
end RobotConsole
