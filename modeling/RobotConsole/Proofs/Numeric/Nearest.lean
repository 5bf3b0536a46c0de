import Mathlib.Algebra.Order.Field.Power
import Mathlib.Algebra.Order.Field.Rat
import Mathlib.Tactic.FieldSimp
import Mathlib.Tactic.Linarith
import Mathlib.Tactic.NormNum
import Mathlib.Tactic.Positivity
import Mathlib.Tactic.Ring

/-!
# Rounding to doubles

A number with at least 53 bits is rounded to a double next to it, and to the upper one only if
that is nearest. How ties are broken is left open.
-/

namespace RobotConsole
namespace Numeric

open Float.Model (Format UnpackedFloat totalExponent)
open Float.Model.UnpackedFloat

/-! ## Numbers that were cut off -/

/-- Where a number lies that was cut off to a mantissa. -/
structure Describes (em : ExtendedMantissa) (x : Rat) : Prop where
  floor : em.mantissa ≤ x
  next : x < em.mantissa + 1
  half : em.roundBit = true ↔ em.mantissa + 1 / 2 ≤ x

section

variable {em : ExtendedMantissa} {x : Rat}

theorem Describes.shiftRightOne (h : Describes em x) : Describes em.shiftRightOne (x / 2) := by
  obtain ⟨floor, next, _⟩ := h
  have parts : em.mantissa = 2 * (em.mantissa / 2) + em.mantissa % 2 := (Nat.div_add_mod _ _).symm
  have cast : (em.mantissa : Rat) = 2 * (em.mantissa / 2 : Nat) + (em.mantissa % 2 : Nat) := by
    exact_mod_cast parts
  have mantissa : em.shiftRightOne.mantissa = em.mantissa / 2 := rfl
  have bit : em.shiftRightOne.roundBit = (em.mantissa % 2 != 0) := rfl
  rcases Nat.mod_two_eq_zero_or_one em.mantissa with even | odd
  · rw [even, Nat.cast_zero] at cast
    refine ⟨?_, ?_, ?_⟩
    · rw [mantissa]
      linarith
    · rw [mantissa]
      linarith
    · rw [mantissa, bit, even]
      constructor
      · nofun
      · intro upper
        linarith
  · rw [odd, Nat.cast_one] at cast
    refine ⟨?_, ?_, ?_⟩
    · rw [mantissa]
      linarith
    · rw [mantissa]
      linarith
    · rw [mantissa, bit, odd]
      constructor
      · intro _
        linarith
      · intro _
        rfl

theorem Describes.shiftRight (h : Describes em x) (k : Nat) : Describes (em >>> k) (x / 2 ^ k) := by
  induction k with
  | zero =>
      rw [pow_zero, div_one]
      exact h
  | succ k ih =>
      rw [pow_succ, ← div_div]
      exact ih.shiftRightOne

theorem roundedMantissa_of_not (lower : em.roundBit = false) :
    em.roundedMantissa = em.mantissa := by
  obtain ⟨m, round, sticky⟩ := em
  cases lower
  cases sticky <;> rfl

theorem roundedMantissa_eq (em : ExtendedMantissa) :
    em.roundedMantissa = em.mantissa ∨
      em.roundedMantissa = em.mantissa + 1 ∧ em.roundBit = true := by
  cases upper : em.roundBit with
  | false => exact .inl (roundedMantissa_of_not upper)
  | true =>
      obtain ⟨m, round, sticky⟩ := em
      cases upper
      cases sticky with
      | true => exact .inr ⟨rfl, rfl⟩
      | false =>
          show m + m % 2 = m ∨ m + m % 2 = m + 1 ∧ _
          rcases Nat.mod_two_eq_zero_or_one m with even | odd
          · rw [even]
            exact .inl rfl
          · rw [odd]
            exact .inr ⟨rfl, rfl⟩

end

theorem mantissa_ofMantissaAndAccuracy (mantissa : Nat) (accuracy : Accuracy) :
    (ExtendedMantissa.ofMantissaAndAccuracy mantissa accuracy).mantissa = mantissa := by
  cases accuracy with
  | exact => rfl
  | inexact order => cases order <;> rfl

theorem roundBit_accuracyOfFraction (mantissa num den : Nat) :
    (ExtendedMantissa.ofMantissaAndAccuracy mantissa (accuracyOfFraction num den)).roundBit =
      true ↔ num ≠ 0 ∧ den ≤ 2 * num := by
  unfold accuracyOfFraction
  split
  · rename_i exact
    exact ⟨nofun, fun upper => absurd exact upper.1⟩
  · rename_i inexact
    cases order : compare (2 * num) den with
    | lt =>
        have below := Nat.compare_eq_lt.1 order
        exact ⟨nofun, fun upper => absurd upper.2 (Nat.not_le.2 below)⟩
    | eq =>
        have same := Nat.compare_eq_eq.1 order
        exact ⟨fun _ => ⟨inexact, same.ge⟩, fun _ => rfl⟩
    | gt =>
        have above := Nat.compare_eq_gt.1 order
        exact ⟨fun _ => ⟨inexact, above.le⟩, fun _ => rfl⟩

theorem describes_quotient (num : Nat) {den : Nat} (positive : 0 < den) :
    Describes (.ofMantissaAndAccuracy (num / den) (accuracyOfFraction (num % den) den))
      ((num : Rat) / den) := by
  have mantissa := mantissa_ofMantissaAndAccuracy (num / den) (accuracyOfFraction (num % den) den)
  have bit := roundBit_accuracyOfFraction (num / den) (num % den) den
  have den_pos : (0 : Rat) < den := by exact_mod_cast positive
  have quotient : (num : Rat) / den = (num / den : Nat) + (num % den : Nat) / (den : Rat) := by
    have parts : (num : Rat) = den * (num / den : Nat) + (num % den : Nat) := by
      exact_mod_cast (Nat.div_add_mod num den).symm
    rw [div_eq_iff den_pos.ne', add_mul, div_mul_cancel₀ _ den_pos.ne', mul_comm]
    exact parts
  refine ⟨?_, ?_, ?_⟩
  · rw [mantissa, quotient]
    exact le_add_of_nonneg_right (by positivity)
  · have below : ((num % den : Nat) : Rat) / den < 1 := by
      rw [div_lt_one den_pos]
      exact_mod_cast Nat.mod_lt num positive
    rw [mantissa, quotient]
    linarith
  · rw [bit, mantissa, quotient, add_le_add_iff_left, div_le_div_iff₀ two_pos den_pos, one_mul]
    constructor
    · rintro ⟨_, upper⟩
      have upper : (den : Rat) ≤ 2 * (num % den : Nat) := by exact_mod_cast upper
      linarith
    · intro upper
      have upper : den ≤ num % den * 2 := by exact_mod_cast upper
      omega

theorem describes_exact (mantissa : Nat) :
    Describes (.ofMantissaAndAccuracy mantissa .exact) mantissa := by
  refine ⟨le_rfl, lt_add_one _, nofun, fun upper => ?_⟩
  have upper : (mantissa : Rat) + 1 / 2 ≤ mantissa := upper
  linarith

/-! ## Rounding -/

/-- A significand that fills its 53 bits, and an exponent that leaves room for it. -/
structure Normal (m : Nat) (e : Int) : Prop where
  low : 2 ^ 52 ≤ m
  high : m < 2 ^ 53
  least : -1074 ≤ e
  greatest : e ≤ 971

/-- The second number is next to the first among the multiples of `2 ^ e`, and nearest if it is
the upper one. -/
structure Nearest (e : Int) (x v : Rat) : Prop where
  rounded : exists a r : Nat, 2 ^ 52 ≤ a ∧ a * (2 : Rat) ^ e ≤ x ∧ x < (a + 1) * (2 : Rat) ^ e ∧
    v = r * (2 : Rat) ^ e ∧ (r = a ∨ r = a + 1 ∧ (a + 1 / 2) * (2 : Rat) ^ e ≤ x)

theorem log2_of_full {m : Nat} (low : 2 ^ 52 ≤ m) (high : m < 2 ^ 53) : m.log2 = 52 := by
  rw [Nat.log2_eq_iff (by omega)]
  exact ⟨low, high⟩

theorem targetExponent_eq {m k : Nat} {e : Int} (log : m.log2 = 52 + k) (least : -1074 ≤ e) :
    Format.binary64.targetExponent (totalExponent m e) = e + k := by
  unfold Format.targetExponent totalExponent
  rw [log]
  show max (((52 + k : Nat) : Int) + 1 + e - ((1 + 52 : Nat) : Int))
    (3 - 2 ^ (11 - 1) - ((1 + 52 : Nat) : Int)) = _
  omega

theorem shiftToTargetExponent_eq {m k : Nat} {e : Int} (log : m.log2 = 52 + k) (least : -1074 ≤ e)
    (accuracy : Accuracy) :
    shiftToTargetExponent Format.binary64 m e accuracy =
      (ExtendedMantissa.ofMantissaAndAccuracy m accuracy >>> k, e + k) := by
  have amount : (e + k - e).toNat = k := by omega
  unfold shiftToTargetExponent shiftToExponent
  dsimp only
  rw [targetExponent_eq log least, amount]

theorem shiftToTargetExponent_full {m : Nat} {e : Int} (normal : Normal m e) :
    shiftToTargetExponent Format.binary64 m e .exact = (⟨m, false, false⟩, e) := by
  rw [shiftToTargetExponent_eq (k := 0) (log2_of_full normal.low normal.high) normal.least]
  exact congrArg (_, ·) (Int.add_zero e)

theorem shiftToTargetExponent_carry {e : Int} (least : -1074 ≤ e) :
    shiftToTargetExponent Format.binary64 (2 ^ 53) e .exact = (⟨2 ^ 52, false, false⟩, e + 1) := by
  rw [shiftToTargetExponent_eq (k := 1) Nat.log2_two_pow least]
  rfl

section

variable {mantissa k : Nat} {exponent : Int} {accuracy : Accuracy} {x : Rat}

theorem Describes.shiftRight_full
    (described : Describes (.ofMantissaAndAccuracy mantissa accuracy) x)
    (log : mantissa.log2 = 52 + k) :
    2 ^ 52 ≤ (ExtendedMantissa.ofMantissaAndAccuracy mantissa accuracy >>> k).mantissa ∧
      (ExtendedMantissa.ofMantissaAndAccuracy mantissa accuracy >>> k).mantissa < 2 ^ 53 := by
  have positive : mantissa ≠ 0 := by
    intro zero
    rw [zero, Nat.log2_zero] at log
    omega
  obtain ⟨low, high⟩ := (Nat.log2_eq_iff positive).1 log
  have shifted := described.shiftRight k
  have base := described.floor
  have next := described.next
  rw [mantissa_ofMantissaAndAccuracy] at base next
  generalize ExtendedMantissa.ofMantissaAndAccuracy mantissa accuracy >>> k = em at shifted
  have power : (0 : Rat) < 2 ^ k := by positivity
  constructor
  · have above := shifted.next
    rw [div_lt_iff₀ power] at above
    have above : mantissa < (em.mantissa + 1) * 2 ^ k := by
      exact_mod_cast base.trans_lt above
    rw [pow_add] at low
    exact Nat.lt_succ_iff.1 (Nat.lt_of_mul_lt_mul_right (low.trans_lt above))
  · have below := shifted.floor
    rw [le_div_iff₀ power] at below
    have below : em.mantissa * 2 ^ k < mantissa + 1 := by
      exact_mod_cast below.trans_lt next
    rw [show 52 + k + 1 = 53 + k by omega, pow_add] at high
    exact Nat.lt_of_mul_lt_mul_right (below.trans_le high)

theorem Describes.nearest {em : ExtendedMantissa} (h : Describes em x) (full : 2 ^ 52 ≤ em.mantissa)
    (e : Int) : Nearest e (x * 2 ^ e) (em.roundedMantissa * 2 ^ e) := by
  have unit : (0 : Rat) < 2 ^ e := by positivity
  refine ⟨em.mantissa, em.roundedMantissa, full, ?_, ?_, rfl, ?_⟩
  · exact mul_le_mul_of_nonneg_right h.floor unit.le
  · exact mul_lt_mul_of_pos_right h.next unit
  · rcases roundedMantissa_eq em with down | ⟨up, bit⟩
    · exact .inl down
    · exact .inr ⟨up, mul_le_mul_of_nonneg_right (h.half.1 bit) unit.le⟩

theorem shiftToTargetExponent_rounded {r : Nat} {e : Int} (low : 2 ^ 52 ≤ r) (high : r ≤ 2 ^ 53)
    (least : -1074 ≤ e) (greatest : e ≤ 971) (carried : r = 2 ^ 53 -> e ≤ 970) :
    exists m e', Normal m e' ∧
      shiftToTargetExponent Format.binary64 r e .exact = (⟨m, false, false⟩, e') ∧
        (r : Rat) * 2 ^ e = m * 2 ^ e' := by
  rcases high.lt_or_eq with small | rfl
  · have normal : Normal r e := ⟨low, small, least, greatest.trans (by decide)⟩
    exact ⟨r, e, normal, shiftToTargetExponent_full normal, rfl⟩
  · refine ⟨2 ^ 52, e + 1, ⟨le_rfl, by decide, by omega, by omega⟩,
      shiftToTargetExponent_carry least, ?_⟩
    rw [zpow_add_one₀ two_ne_zero]
    push_cast
    ring

/-- What is this large is rounded to infinity. -/
def overflow : Rat :=
  (2 ^ 53 - 1 / 2) * 2 ^ (971 : Int)

theorem le_of_two_zpow_lt_overflow {e : Int} (less : (2 : Rat) ^ (52 + e) < overflow) :
    e ≤ 971 := by
  have less : (2 : Rat) ^ (52 + e) < 2 ^ (1024 : Int) := by
    refine less.trans ?_
    have top : (2 : Rat) ^ (1024 : Int) = 2 ^ 53 * 2 ^ (971 : Int) := by
      rw [← zpow_natCast, ← zpow_add₀ two_ne_zero]
      rfl
    rw [top]
    exact mul_lt_mul_of_pos_right (by norm_num) (by positivity)
  have := (zpow_lt_zpow_iff_right₀ one_lt_two).1 less
  omega

/-- A number with at least 53 bits that does not overflow is rounded to a double next to it. -/
theorem roundWithAccuracy_nearest_of_lt
    (described : Describes (.ofMantissaAndAccuracy mantissa accuracy) x)
    (log : mantissa.log2 = 52 + k) (least : -1074 ≤ exponent) (below : x * 2 ^ exponent < overflow)
    (sign : Sign) :
    exists m e pos, Normal m e ∧
      roundWithAccuracy Format.binary64 sign mantissa exponent accuracy = .finite sign m e pos ∧
        Nearest (exponent + k) (x * 2 ^ exponent) (m * 2 ^ e) := by
  have first := shiftToTargetExponent_eq log least accuracy
  obtain ⟨full, small⟩ := described.shiftRight_full log
  have shifted := described.shiftRight k
  have near := shifted.nearest full (exponent + k)
  generalize ExtendedMantissa.ofMantissaAndAccuracy mantissa accuracy >>> k = em
    at first full small near shifted
  have scale : x / 2 ^ k * 2 ^ (exponent + k) = x * (2 : Rat) ^ exponent := by
    rw [zpow_add₀ two_ne_zero, zpow_natCast]
    field_simp
  have unit : (0 : Rat) < 2 ^ (exponent + k) := by positivity
  have greatest : exponent + k ≤ 971 := by
    apply le_of_two_zpow_lt_overflow
    refine lt_of_le_of_lt ?_ below
    rw [← scale, zpow_add₀ two_ne_zero]
    have full : ((2 ^ 52 : Nat) : Rat) ≤ em.mantissa := by exact_mod_cast full
    exact mul_le_mul_of_nonneg_right (le_trans (by norm_num) (full.trans shifted.floor)) unit.le
  -- In the top binade a carry would have rounded to infinity.
  have carried : em.roundedMantissa = 2 ^ 53 -> exponent + k ≤ 970 := by
    intro carry
    by_contra top
    obtain same : exponent + k = 971 := by omega
    rcases roundedMantissa_eq em with down | ⟨up, bit⟩
    · omega
    · have last : (em.mantissa : Rat) = 2 ^ 53 - 1 := by
        have : em.mantissa = 2 ^ 53 - 1 := by omega
        rw [this]
        norm_num
      have half := shifted.half.1 bit
      rw [last] at half
      have reached := mul_le_mul_of_nonneg_right half unit.le
      rw [scale, same] at reached
      unfold overflow at below
      linarith
  obtain ⟨low, high⟩ : 2 ^ 52 ≤ em.roundedMantissa ∧ em.roundedMantissa ≤ 2 ^ 53 := by
    rcases roundedMantissa_eq em with down | ⟨up, _⟩ <;> omega
  obtain ⟨m, e, normal, second, value⟩ :=
    shiftToTargetExponent_rounded low high (e := exponent + k) (by omega) greatest carried
  have pos : 0 < m := Nat.lt_of_lt_of_le (by decide) normal.low
  rw [scale, value] at near
  refine ⟨m, e, pos, normal, ?_, near⟩
  unfold roundWithAccuracy
  rw [first]
  dsimp only
  rw [second]
  exact dif_neg pos.ne'

theorem roundWithAccuracy_nearest
    (described : Describes (.ofMantissaAndAccuracy mantissa accuracy) x)
    (log : mantissa.log2 = 52 + k) (least : -1074 ≤ exponent) (greatest : exponent + k ≤ 970)
    (sign : Sign) :
    exists m e pos, Normal m e ∧
      roundWithAccuracy Format.binary64 sign mantissa exponent accuracy = .finite sign m e pos ∧
        Nearest (exponent + k) (x * 2 ^ exponent) (m * 2 ^ e) := by
  refine roundWithAccuracy_nearest_of_lt described log least ?_ sign
  have next := described.next
  rw [mantissa_ofMantissaAndAccuracy] at next
  have bits : mantissa + 1 ≤ 2 ^ (53 + k) := by
    have positive : mantissa ≠ 0 := by
      rintro rfl
      rw [Nat.log2_zero] at log
      omega
    have := ((Nat.log2_eq_iff positive).1 log).2
    rwa [show 52 + k + 1 = 53 + k by omega] at this
  have bits : (mantissa : Rat) + 1 ≤ 2 ^ (53 + k) := by exact_mod_cast bits
  calc x * 2 ^ exponent < 2 ^ (53 + k) * 2 ^ exponent :=
      mul_lt_mul_of_pos_right (next.trans_le bits) (by positivity)
    _ = 2 ^ 53 * 2 ^ (exponent + k) := by
      rw [zpow_add₀ two_ne_zero, zpow_natCast, pow_add]
      ring
    _ ≤ 2 ^ 53 * 2 ^ (970 : Int) :=
      mul_le_mul_of_nonneg_left (zpow_le_zpow_right₀ one_le_two greatest) (by positivity)
    _ ≤ overflow := by
      unfold overflow
      rw [show (971 : Int) = 970 + 1 by rfl, zpow_add_one₀ two_ne_zero]
      have unit : (0 : Rat) < 2 ^ (970 : Int) := by positivity
      generalize (2 : Rat) ^ (970 : Int) = u at unit
      linarith

end

/-! ## Exact numbers -/

theorem Nearest.eq_of_multiple {e : Int} {x v : Rat} (h : Nearest e x v) {c : Nat}
    (multiple : x = c * 2 ^ e) : v = x := by
  obtain ⟨a, r, _, floor, next, rfl, rounded⟩ := h
  have unit : (0 : Rat) < 2 ^ e := by positivity
  rw [multiple] at floor next rounded ⊢
  rw [mul_le_mul_iff_of_pos_right unit] at floor rounded
  rw [mul_lt_mul_iff_of_pos_right unit] at next
  have same : a = c := by
    have floor : a ≤ c := by exact_mod_cast floor
    have next : c < a + 1 := by exact_mod_cast next
    omega
  subst same
  rcases rounded with rfl | ⟨_, upper⟩
  · rfl
  · linarith

theorem roundWithAccuracy_exact {mantissa k : Nat} {exponent : Int} (log : mantissa.log2 = 52 + k)
    (least : -1074 ≤ exponent) (greatest : exponent + k ≤ 970) {c : Nat}
    (multiple : mantissa = c * 2 ^ k) (sign : Sign) :
    exists m e pos, Normal m e ∧
      roundWithAccuracy Format.binary64 sign mantissa exponent .exact = .finite sign m e pos ∧
        (m : Rat) * 2 ^ e = mantissa * 2 ^ exponent := by
  obtain ⟨m, e, pos, normal, rounded, near⟩ :=
    roundWithAccuracy_nearest (describes_exact mantissa) log least greatest sign
  refine ⟨m, e, pos, normal, rounded, near.eq_of_multiple (c := c) ?_⟩
  rw [multiple, zpow_add₀ two_ne_zero, zpow_natCast]
  push_cast
  ring

theorem round_full {mantissa k : Nat} {exponent : Int} (log : mantissa.log2 = 52 + k)
    (least : -1074 ≤ exponent) (sign : Sign) :
    UnpackedFloat.round Format.binary64 sign mantissa exponent =
      roundWithAccuracy Format.binary64 sign mantissa exponent .exact := by
  have amount : (exponent - (exponent + k)).toNat = 0 := by omega
  unfold UnpackedFloat.round decreaseExponent
  dsimp only
  rw [targetExponent_eq log least, amount, Nat.shiftLeft_zero, Int.natCast_zero, Int.sub_zero]

theorem normalize_of_pos {n : Nat} (positive : 0 < n) (exponent : Int) (zero : Sign) :
    UnpackedFloat.normalize Format.binary64 n exponent zero =
      UnpackedFloat.round Format.binary64 .positive n exponent := by
  have order : compare (n : Int) 0 = .gt := Int.compare_eq_gt.2 (by omega)
  unfold UnpackedFloat.normalize
  rw [order]
  dsimp only
  rw [Int.toNat_natCast]

theorem round_small {n : Nat} (positive : 0 < n) (small : n < 2 ^ 53) (sign : Sign) :
    exists m e pos, Normal m e ∧
      UnpackedFloat.round Format.binary64 sign n 0 = .finite sign m e pos ∧
      (m : Rat) * 2 ^ e = n := by
  obtain ⟨k, log⟩ : exists k, n.log2 = k := ⟨_, rfl⟩
  obtain ⟨low, high⟩ := (Nat.log2_eq_iff positive.ne').1 log
  have short : k < 53 := by
    rw [← log, Nat.log2_lt positive.ne']
    exact small
  obtain ⟨shift, whole⟩ : exists shift, k + shift = 52 := ⟨52 - k, by omega⟩
  have target : Format.binary64.targetExponent (totalExponent n 0) = -shift := by
    unfold Format.targetExponent totalExponent
    rw [log]
    show max ((k : Int) + 1 + 0 - ((1 + 52 : Nat) : Int))
      (3 - 2 ^ (11 - 1) - ((1 + 52 : Nat) : Int)) = _
    omega
  have decreased : decreaseExponent n 0 (-shift) = (n * 2 ^ shift, -(shift : Int)) := by
    have amount : (0 - -(shift : Int)).toNat = shift := by omega
    unfold decreaseExponent
    dsimp only
    rw [amount, Nat.shiftLeft_eq, Int.zero_sub]
  have full : (n * 2 ^ shift).log2 = 52 + 0 := by
    apply log2_of_full
    · calc 2 ^ 52 = 2 ^ k * 2 ^ shift := by rw [← pow_add, whole]
        _ ≤ n * 2 ^ shift := Nat.mul_le_mul_right _ low
    · calc n * 2 ^ shift < 2 ^ (k + 1) * 2 ^ shift :=
          Nat.mul_lt_mul_of_pos_right high (Nat.two_pow_pos _)
        _ = 2 ^ 53 := by rw [← pow_add, show k + 1 + shift = 53 by omega]
  obtain ⟨m, e, pos, normal, rounded, whole⟩ := roundWithAccuracy_exact full
    (show -1074 ≤ -(shift : Int) by omega) (by omega) (mul_one _).symm sign
  refine ⟨m, e, pos, normal, ?_, ?_⟩
  · unfold UnpackedFloat.round
    dsimp only
    rw [target, decreased]
    exact rounded
  · rw [whole, zpow_neg, zpow_natCast]
    push_cast
    field_simp

/-! ## Thousandths -/

section

variable {e : Int} {p v : Rat}

theorem Nearest.exponent_lt (h : Nearest e p v) {k : Int} (below : p < 2 ^ (52 + k)) :
    e < k := by
  obtain ⟨a, r, full, floor, _⟩ := h
  have full : (2 : Rat) ^ 52 ≤ a := by exact_mod_cast full
  have unit : (0 : Rat) < 2 ^ e := by positivity
  have less : (2 : Rat) ^ (52 + e) < 2 ^ (52 + k) := by
    calc (2 : Rat) ^ (52 + e) = 2 ^ 52 * 2 ^ e := by rw [zpow_add₀ two_ne_zero]; rfl
      _ ≤ a * 2 ^ e := mul_le_mul_of_nonneg_right full unit.le
      _ ≤ p := floor
      _ < 2 ^ (52 + k) := below
  have := (zpow_lt_zpow_iff_right₀ one_lt_two).1 less
  omega

theorem Nearest.dist_le (h : Nearest e p v) {k : Int} (below : p < 2 ^ (53 + k)) :
    |v - p| ≤ 2 ^ k := by
  have fine : e < k + 1 := by
    apply h.exponent_lt
    rw [show 52 + (k + 1) = 53 + k by ring]
    exact below
  have unit : (2 : Rat) ^ e ≤ 2 ^ k := zpow_le_zpow_right₀ one_le_two (by omega)
  have positive : (0 : Rat) < 2 ^ e := by positivity
  obtain ⟨a, r, _, floor, next, rfl, rounded⟩ := h
  rw [abs_le]
  rcases rounded with rfl | ⟨rfl, upper⟩
  · constructor <;> linarith
  · push_cast
    constructor <;> linarith

theorem exists_multiple (s : Nat) (fine : e ≤ 0) : exists c : Nat, (s : Rat) = c * 2 ^ e := by
  obtain ⟨k, rfl⟩ : exists k : Nat, e = -k := ⟨e.natAbs, by omega⟩
  refine ⟨s * 2 ^ k, ?_⟩
  rw [zpow_neg, zpow_natCast]
  push_cast
  field_simp

theorem Nearest.multiple_le (h : Nearest e p v) {c : Nat} (below : c * 2 ^ e ≤ p) :
    c * 2 ^ e ≤ v := by
  obtain ⟨a, r, _, _, next, rfl, rounded⟩ := h
  have unit : (0 : Rat) < 2 ^ e := by positivity
  have reached : c < a + 1 := by
    have less := below.trans_lt next
    rw [mul_lt_mul_iff_of_pos_right unit] at less
    exact_mod_cast less
  have least : c ≤ r := by
    rcases rounded with rfl | ⟨rfl, _⟩ <;> omega
  exact mul_le_mul_of_nonneg_right (by exact_mod_cast least) unit.le

theorem Nearest.lt_multiple (h : Nearest e p v) {c : Nat} (apart : p + 2 ^ e / 2 < c * 2 ^ e) :
    v < c * 2 ^ e := by
  obtain ⟨a, r, _, floor, _, rfl, rounded⟩ := h
  have unit : (0 : Rat) < 2 ^ e := by positivity
  rcases rounded with rfl | ⟨rfl, upper⟩
  · linarith
  · push_cast
    linarith

/-- A number of thousandths is rounded to a number on the same side of each whole number. -/
theorem Nearest.lt_iff {n s : Nat} (h : Nearest e (n / 1000) v) (small : n < 2 ^ 53)
    (short : s < 2 ^ 43) : v < s ↔ n < 1000 * s := by
  have fine : e < -8 := by
    have small : (n : Rat) < 2 ^ 53 := by exact_mod_cast small
    have bound : (2 : Rat) ^ (52 + -8 : Int) = 2 ^ 44 := by norm_num
    apply h.exponent_lt
    rw [bound]
    linarith
  obtain ⟨c, whole⟩ := exists_multiple s (e := e) (by omega)
  constructor
  · contrapose!
    intro above
    have above : (1000 * s : Rat) ≤ n := by exact_mod_cast above
    rw [whole] at above ⊢
    exact h.multiple_le (by linarith)
  · intro below
    have below : (n : Rat) + 1 ≤ 1000 * s := by exact_mod_cast below
    have short : (s : Rat) < 2 ^ 43 := by exact_mod_cast short
    have finer : e < -9 := by
      have bound : (2 : Rat) ^ (52 + -9 : Int) = 2 ^ 43 := by norm_num
      apply h.exponent_lt
      rw [bound]
      linarith
    have narrow : (2 : Rat) ^ e ≤ 1 / 1024 := by
      calc (2 : Rat) ^ e ≤ 2 ^ (-10 : Int) := zpow_le_zpow_right₀ one_le_two (by omega)
        _ = 1 / 1024 := by norm_num
    rw [whole] at below ⊢
    exact h.lt_multiple (by linarith)

end

end Numeric
end RobotConsole
