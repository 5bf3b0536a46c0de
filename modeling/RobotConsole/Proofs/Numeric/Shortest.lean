import Mathlib.Algebra.Order.Field.Power
import Mathlib.Algebra.Order.Field.Rat
import Mathlib.Tactic.FieldSimp
import Mathlib.Tactic.Linarith
import Mathlib.Tactic.NormNum
import Mathlib.Tactic.Positivity
import Mathlib.Tactic.Ring
import RobotConsole.Numeric.Shortest

/-!
# The decimal of a double

The decimal that is found for a double rounds to it: seventeen digits suffice, as their grid is
finer than the interval of the reals that round to the double. The zeros at the end of the digits
do not count.
-/

namespace RobotConsole
namespace Numeric

def DecimalParts.value (d : DecimalParts) : Rat :=
  d.digits * (10 : Rat) ^ d.exponent

/-! ## Grids -/

theorem zpow_eq_quotient (base : Nat) (positive : 0 < base) (exponent : Int) :
    (base : Rat) ^ exponent * (Nat.pow base (-exponent).toNat : Nat) =
      (Nat.pow base exponent.toNat : Nat) := by
  have some : (base : Rat) ≠ 0 := by exact_mod_cast positive.ne'
  have both : exponent + (-exponent).toNat = exponent.toNat := by omega
  show (base : Rat) ^ exponent * ((base ^ (-exponent).toNat : Nat) : Rat) =
    ((base ^ exponent.toNat : Nat) : Rat)
  rw [Nat.cast_pow, Nat.cast_pow, ← zpow_natCast, ← zpow_natCast, ← zpow_add₀ some, both]

namespace RoundingInterval

/-- A real that rounds to the double, or to one next to it at the ends of the interval. -/
structure Has (i : RoundingInterval) (x : Rat) : Prop where
  low : i.low ≤ x * i.scale
  high : x * i.scale ≤ i.high

section

variable {i : RoundingInterval} {num den : Nat} {x : Rat}

theorem has_of_holds (positive : 0 < den) (point : x * den = num) (holds : i.holds num den) :
    i.Has x := by
  have den_pos : (0 : Rat) < den := by exact_mod_cast positive
  have inside : i.low * den ≤ num * i.scale ∧ num * i.scale ≤ i.high * den := by
    unfold RoundingInterval.holds at holds
    dsimp only at holds
    split at holds <;> simp only [Bool.and_eq_true, decide_eq_true_eq] at holds
    · exact holds
    · exact ⟨holds.1.le, holds.2.le⟩
  have scaled : x * i.scale * den = num * i.scale := by
    rw [← point]
    ring
  constructor
  · rw [← mul_le_mul_iff_of_pos_right den_pos, scaled]
    exact_mod_cast inside.1
  · rw [← mul_le_mul_iff_of_pos_right den_pos, scaled]
    exact_mod_cast inside.2

theorem holds_of_between (positive : 0 < den) (point : x * den = num) (low : i.low < x * i.scale)
    (high : x * i.scale < i.high) : i.holds num den := by
  have den_pos : (0 : Rat) < den := by exact_mod_cast positive
  have scaled : x * i.scale * den = num * i.scale := by
    rw [← point]
    ring
  rw [← mul_lt_mul_iff_of_pos_right den_pos, scaled] at low high
  have low : i.low * den < num * i.scale := by exact_mod_cast low
  have high : num * i.scale < i.high * den := by exact_mod_cast high
  unfold RoundingInterval.holds
  dsimp only
  split <;> simp only [Bool.and_eq_true, decide_eq_true_eq]
  · exact ⟨low.le, high.le⟩
  · exact ⟨low, high⟩

end

section

variable {i : RoundingInterval} {exponent : Int}

def below (i : RoundingInterval) (exponent : Int) : Nat :=
  i.value * Nat.pow 10 (-exponent).toNat / (i.scale * Nat.pow 10 exponent.toNat)

theorem point_eq (n : Nat) (exponent : Int) :
    (DecimalParts.mk n exponent).value * (Nat.pow 10 (-exponent).toNat : Nat) =
      (n * Nat.pow 10 exponent.toNat : Nat) := by
  have power := zpow_eq_quotient 10 (by decide) exponent
  unfold DecimalParts.value
  rw [Nat.cast_mul, ← power]
  push_cast
  ring

theorem below_le (scale : 0 < i.scale) (exponent : Int) :
    (DecimalParts.mk (i.below exponent) exponent).value * i.scale ≤ i.value ∧
      i.value < (DecimalParts.mk (i.below exponent + 1) exponent).value * i.scale := by
  have up : 0 < Nat.pow 10 exponent.toNat := Nat.pow_pos (by decide)
  have down : 0 < Nat.pow 10 (-exponent).toNat := Nat.pow_pos (by decide)
  have down_pos : (0 : Rat) < (Nat.pow 10 (-exponent).toNat : Nat) := by exact_mod_cast down
  have scaled (n : Nat) : (DecimalParts.mk n exponent).value * i.scale *
      (Nat.pow 10 (-exponent).toNat : Nat) = (n * (i.scale * Nat.pow 10 exponent.toNat) : Nat) := by
    have point := point_eq n exponent
    rw [mul_right_comm, point]
    push_cast
    ring
  constructor
  · rw [← mul_le_mul_iff_of_pos_right down_pos, scaled]
    exact_mod_cast Nat.div_mul_le_self _ _
  · rw [← mul_lt_mul_iff_of_pos_right down_pos, scaled]
    exact_mod_cast Nat.lt_mul_of_div_lt (Nat.lt_succ_self _) (Nat.mul_pos scale up)

theorem of_onGrid? {d : DecimalParts} (found : i.onGrid? exponent = some d) :
    d.exponent = exponent ∧ d.digits ≠ 0 ∧ d.digits ≤ i.below exponent + 1 ∧ i.Has d.value := by
  have down : 0 < Nat.pow 10 (-exponent).toNat := Nat.pow_pos (by decide)
  have fits (n : Nat)
      (holds : i.holds (n * Nat.pow 10 exponent.toNat) (Nat.pow 10 (-exponent).toNat)) :
      i.Has (DecimalParts.mk n exponent).value :=
    has_of_holds down (point_eq n exponent) holds
  unfold onGrid? at found
  dsimp only at found
  split at found
  · rename_i lower
    cases found
    simp only [Bool.and_eq_true, decide_eq_true_eq] at lower
    exact ⟨rfl, lower.1.1, Nat.le_succ _, fits _ lower.1.2⟩
  · split at found
    · rename_i upper
      cases found
      exact ⟨rfl, Nat.succ_ne_zero _, le_rfl, fits _ upper⟩
    · cases found

theorem isSome_onGrid? (scale : 0 < i.scale) (reached : i.below exponent ≠ 0)
    (low : i.low < i.value - (10 : Rat) ^ exponent * i.scale / 2)
    (high : i.value + (10 : Rat) ^ exponent * i.scale / 2 < i.high) :
    (i.onGrid? exponent).isSome := by
  have down : 0 < Nat.pow 10 (-exponent).toNat := Nat.pow_pos (by decide)
  obtain ⟨floor, next⟩ := below_le scale exponent
  have step : (DecimalParts.mk (i.below exponent + 1) exponent).value * i.scale =
      (DecimalParts.mk (i.below exponent) exponent).value * i.scale +
        (10 : Rat) ^ exponent * i.scale := by
    unfold DecimalParts.value
    push_cast
    ring
  have near : i.holds (i.below exponent * Nat.pow 10 exponent.toNat)
        (Nat.pow 10 (-exponent).toNat) ∨
      i.holds ((i.below exponent + 1) * Nat.pow 10 exponent.toNat)
        (Nat.pow 10 (-exponent).toNat) := by
    rcases le_total (i.value - (10 : Rat) ^ exponent * i.scale / 2)
      ((DecimalParts.mk (i.below exponent) exponent).value * i.scale) with close | far
    · exact .inl (holds_of_between down (point_eq _ _) (by linarith) (by linarith))
    · exact .inr (holds_of_between down (point_eq _ _) (by linarith) (by linarith))
  unfold onGrid?
  unfold below at near reached
  dsimp only
  split
  · rfl
  · rename_i lower
    split
    · rfl
    · rename_i upper
      rcases near with holds | holds
      · refine absurd ?_ lower
        rw [holds, eq_false_of_ne_true upper, decide_eq_true reached]
        rfl
      · exact absurd holds upper

end

/-! ## Size -/

theorem digitCount_bounds {n : Nat} (positive : n ≠ 0) :
    10 ^ digitCount n ≤ 10 * n ∧ n < 10 ^ digitCount n := by
  unfold digitCount
  rw [if_neg positive]
  have length : 0 < (Nat.toDigits 10 n).length := Nat.length_toDigits_pos
  refine ⟨?_, (Nat.length_toDigits_le_iff (by decide) length).1 le_rfl⟩
  obtain ⟨k, same⟩ := Nat.exists_eq_add_one.2 length
  rw [same, pow_succ']
  apply Nat.mul_le_mul_left
  cases k with
  | zero => exact Nat.pos_of_ne_zero positive
  | succ k =>
      have longer : ¬ (Nat.toDigits 10 n).length ≤ k + 1 := by omega
      rw [Nat.length_toDigits_le_iff (by decide) (Nat.succ_pos k)] at longer
      exact Nat.not_lt.1 longer

theorem magnitude_bounds {i : RoundingInterval} (scale : 0 < i.scale) (value : 0 < i.value) :
    (10 : Rat) ^ i.magnitude * i.scale ≤ 10 * i.value ∧
      i.value ≤ (10 : Rat) ^ i.magnitude * i.scale := by
  unfold magnitude
  dsimp only
  split
  · rename_i whole
    obtain ⟨low, high⟩ := digitCount_bounds whole
    have floor := Nat.div_mul_le_self i.value i.scale
    have next := Nat.lt_mul_of_div_lt (Nat.lt_succ_self (i.value / i.scale)) scale
    rw [zpow_natCast]
    constructor
    · have : 10 ^ digitCount (i.value / i.scale) * i.scale ≤ 10 * i.value := by nlinarith
      exact_mod_cast this
    · have : i.value ≤ 10 ^ digitCount (i.value / i.scale) * i.scale := by nlinarith
      exact_mod_cast this
  · rename_i part
    have less : i.value < i.scale := by
      have := Nat.div_eq_zero_iff.1 (not_not.1 part)
      omega
    have whole : i.scale / i.value ≠ 0 := (Nat.div_pos less.le value).ne'
    obtain ⟨low, high⟩ := digitCount_bounds whole
    have floor := Nat.div_mul_le_self i.scale i.value
    have next := Nat.lt_mul_of_div_lt (Nat.lt_succ_self (i.scale / i.value)) value
    generalize digitCount (i.scale / i.value) = c at low high ⊢
    have power : (0 : Rat) < 10 ^ c := by positivity
    rw [zpow_sub₀ (by norm_num), zpow_one, zpow_natCast, div_mul_eq_mul_div]
    rw [div_le_iff₀ power, le_div_iff₀ power]
    constructor
    · have : i.scale ≤ i.value * 10 ^ c := by nlinarith
      have : (i.scale : Rat) ≤ i.value * 10 ^ c := by exact_mod_cast this
      linarith
    · have : i.value * 10 ^ c ≤ 10 * i.scale := by nlinarith
      exact_mod_cast this

/-! ## The interval of a double -/

section

variable {m : Nat} {q : Int}

theorem scale_ofParts_pos (m : Nat) (q : Int) : 0 < (ofParts m q).scale :=
  Nat.mul_pos (by decide) (Nat.pow_pos (by decide))

theorem unit_ofParts (m : Nat) (q : Int) :
    (4 : Rat) * (Nat.pow 2 q.toNat : Nat) = 2 ^ q * (ofParts m q).scale := by
  have power := zpow_eq_quotient 2 (by decide) q
  show _ = (2 : Rat) ^ q * ((4 * Nat.pow 2 (-q).toNat : Nat) : Rat)
  rw [← power]
  push_cast
  ring

theorem value_ofParts (m : Nat) (q : Int) :
    ((ofParts m q).value : Rat) = m * 2 ^ q * (ofParts m q).scale := by
  have unit := unit_ofParts m q
  show ((4 * m * Nat.pow 2 q.toNat : Nat) : Rat) = _
  rw [mul_assoc (m : Rat), ← unit]
  push_cast
  ring

theorem high_ofParts (m : Nat) (q : Int) :
    ((ofParts m q).high : Rat) = (m + 1 / 2) * 2 ^ q * (ofParts m q).scale := by
  have unit := unit_ofParts m q
  show (((4 * m + 2) * Nat.pow 2 q.toNat : Nat) : Rat) = _
  rw [mul_assoc, ← unit]
  push_cast
  ring

theorem low_ofParts (positive : 0 < m) :
    ((ofParts m q).low : Rat) = (m - 1 / 2) * 2 ^ q * (ofParts m q).scale ∨
      m = 2 ^ 52 ∧ ((ofParts m q).low : Rat) = (m - 1 / 4) * 2 ^ q * (ofParts m q).scale := by
  have unit := unit_ofParts m q
  rw [mul_assoc, mul_assoc, ← unit]
  by_cases power : m = wordSize 52 ∧ -1074 < q
  · have low : (ofParts m q).low = (4 * m - 1) * Nat.pow 2 q.toNat := by
      simp only [ofParts, if_pos power]
    rw [low, Nat.cast_mul, Nat.cast_sub (by omega)]
    refine .inr ⟨power.1, ?_⟩
    push_cast
    ring
  · have low : (ofParts m q).low = (4 * m - 2) * Nat.pow 2 q.toNat := by
      simp only [ofParts, if_neg power]
    rw [low, Nat.cast_mul, Nat.cast_sub (by omega)]
    refine .inl ?_
    push_cast
    ring

theorem Has.near {x : Rat} (has : (ofParts m q).Has x) (positive : 0 < m) :
    |x - m * 2 ^ q| ≤ 2 ^ q / 2 := by
  have scale : (0 : Rat) < (ofParts m q).scale := by exact_mod_cast scale_ofParts_pos m q
  have unit : (0 : Rat) < 2 ^ q := by positivity
  obtain ⟨low, high⟩ := has
  rw [high_ofParts, mul_le_mul_iff_of_pos_right scale] at high
  have low : (m - 1 / 2) * 2 ^ q ≤ x := by
    rcases low_ofParts (q := q) positive with same | ⟨_, same⟩
    · rw [same, mul_le_mul_iff_of_pos_right scale] at low
      exact low
    · rw [same, mul_le_mul_iff_of_pos_right scale] at low
      nlinarith
  rw [abs_le]
  constructor <;> linarith

/-- Seventeen digits suffice. -/
theorem isSome_onGrid?_ofParts (positive : 0 < m) (full : m < 2 ^ 53) {e : Int}
    (fine : (10 : Rat) ^ e * 10 ^ 16 ≤ m * 2 ^ q) : ((ofParts m q).onGrid? e).isSome := by
  have scale : (0 : Rat) < (ofParts m q).scale := by exact_mod_cast scale_ofParts_pos m q
  have unit : (0 : Rat) < 2 ^ q := by positivity
  have step : (0 : Rat) < 10 ^ e := by positivity
  have full : (m : Rat) < 2 ^ 53 := by exact_mod_cast full
  have small : (10 : Rat) ^ e < 2 ^ q := by nlinarith
  apply isSome_onGrid? (scale_ofParts_pos m q)
  · intro none
    have next := (below_le (scale_ofParts_pos m q) e).2
    rw [none, value_ofParts, mul_lt_mul_iff_of_pos_right scale] at next
    unfold DecimalParts.value at next
    rw [zero_add, Nat.cast_one, one_mul] at next
    linarith
  · rw [value_ofParts, mul_div_right_comm, ← sub_mul]
    rcases low_ofParts (q := q) positive with same | ⟨power, same⟩
    · rw [same, mul_lt_mul_iff_of_pos_right scale]
      linarith
    · have power : (m : Rat) = 2 ^ 52 := by exact_mod_cast power
      rw [same, mul_lt_mul_iff_of_pos_right scale]
      rw [power] at fine ⊢
      linarith
  · rw [value_ofParts, high_ofParts, mul_div_right_comm, ← add_mul,
      mul_lt_mul_iff_of_pos_right scale]
    linarith

end

end RoundingInterval

/-! ## The shortest decimal -/

theorem DecimalParts.stripped_go (fuel : Nat) (d : DecimalParts) :
    (stripped.go fuel d).value = d.value ∧ (stripped.go fuel d).digits ≤ d.digits ∧
      d.exponent ≤ (stripped.go fuel d).exponent ∧
      ((stripped.go fuel d).digits = 0 ↔ d.digits = 0) := by
  induction fuel generalizing d with
  | zero => exact ⟨rfl, le_rfl, le_rfl, Iff.rfl⟩
  | succ fuel ih =>
      unfold stripped.go
      split
      · rename_i zeros
        obtain ⟨value, digits, exponent, none⟩ := ih ⟨d.digits / 10, d.exponent + 1⟩
        refine ⟨value.trans ?_, digits.trans (Nat.div_le_self _ _), ?_, none.trans ?_⟩
        · have whole : (d.digits : Rat) = 10 * (d.digits / 10 : Nat) := by
            exact_mod_cast (Nat.mul_div_cancel' (Nat.dvd_of_mod_eq_zero zeros.2)).symm
          unfold DecimalParts.value
          rw [whole, zpow_add_one₀ (by norm_num)]
          ring
        · exact (Int.le_add_of_nonneg_right (by decide)).trans exponent
        · show d.digits / 10 = 0 ↔ d.digits = 0
          omega
      · exact ⟨rfl, le_rfl, le_rfl, Iff.rfl⟩

/-- The decimal that is found for a double that is not zero: its digits fit into 64 bits, and it
is at most half a unit in the last place away. -/
structure Finds (m : Nat) (q : Int) (d : DecimalParts) : Prop where
  some : d.digits ≠ 0
  short : d.digits ≤ 10 ^ 17 + 1
  near : |d.value - m * 2 ^ q| ≤ 2 ^ q / 2
  coarse : (m : Rat) * 2 ^ q ≤ (10 : Rat) ^ (d.exponent + 17)

theorem finds_of_onGrid? {m n : Nat} {q top : Int} (positive : 0 < m)
    (high : (m : Rat) * 2 ^ q ≤ 10 ^ top) (few : n < 18) {d : DecimalParts}
    (found : (RoundingInterval.ofParts m q).onGrid? (top - n) = some d) : Finds m q d := by
  have scale := RoundingInterval.scale_ofParts_pos m q
  have scale_pos : (0 : Rat) < (RoundingInterval.ofParts m q).scale := by exact_mod_cast scale
  obtain ⟨grid, some, next, has⟩ := RoundingInterval.of_onGrid? found
  obtain ⟨floor, _⟩ := RoundingInterval.below_le scale (top - n)
  rw [RoundingInterval.value_ofParts, mul_le_mul_iff_of_pos_right scale_pos] at floor
  have step : (0 : Rat) < 10 ^ (top - n) := by positivity
  have split : (10 : Rat) ^ top = 10 ^ n * 10 ^ (top - n) := by
    rw [← zpow_natCast, ← zpow_add₀ (by norm_num)]
    congr 1
    omega
  have least : (RoundingInterval.ofParts m q).below (top - n) ≤ 10 ^ n := by
    have bound := floor.trans (high.trans_eq split)
    unfold DecimalParts.value at bound
    rw [mul_le_mul_iff_of_pos_right step] at bound
    exact_mod_cast bound
  have most : 10 ^ n ≤ 10 ^ 17 := Nat.pow_le_pow_right (by decide) (by omega)
  refine ⟨some, next.trans (by omega), has.near positive, high.trans ?_⟩
  rw [grid]
  exact zpow_le_zpow_right₀ (by norm_num) (by omega)

theorem Finds.stripped {m : Nat} {q : Int} {d : DecimalParts} (finds : Finds m q d) :
    Finds m q d.stripped := by
  obtain ⟨value, digits, exponent, none⟩ := DecimalParts.stripped_go 20 d
  refine ⟨fun zero => finds.some (none.1 zero), digits.trans finds.short, ?_, finds.coarse.trans ?_⟩
  · unfold DecimalParts.stripped
    rw [value]
    exact finds.near
  · exact zpow_le_zpow_right₀ (by norm_num) (Int.add_le_add_right exponent 17)

theorem finds_shortestDecimal {m : Nat} (positive : 0 < m) (full : m < 2 ^ 53) (q : Int) :
    Finds m q (shortestDecimal m q) := by
  have scale := RoundingInterval.scale_ofParts_pos m q
  have scale_pos : (0 : Rat) < (RoundingInterval.ofParts m q).scale := by exact_mod_cast scale
  have value_pos : 0 < (RoundingInterval.ofParts m q).value :=
    Nat.mul_pos (Nat.mul_pos (by decide) positive) (Nat.pow_pos (by decide))
  obtain ⟨low, high⟩ := RoundingInterval.magnitude_bounds scale value_pos
  unfold shortestDecimal
  rw [if_neg positive.ne']
  dsimp only
  generalize (RoundingInterval.ofParts m q).magnitude = top at low high ⊢
  rw [RoundingInterval.value_ofParts, ← mul_assoc, mul_le_mul_iff_of_pos_right scale_pos] at low
  rw [RoundingInterval.value_ofParts, mul_le_mul_iff_of_pos_right scale_pos] at high
  have fine : (10 : Rat) ^ (top - (17 : Nat)) * 10 ^ 16 ≤ m * 2 ^ q := by
    have split : (10 : Rat) ^ top = 10 * (10 ^ (top - (17 : Nat)) * 10 ^ 16) := by
      rw [zpow_sub₀ (by norm_num), zpow_natCast]
      field_simp
    linarith
  have found : (((List.range 18).map fun (n : Nat) => top - n).findSome?
      (RoundingInterval.ofParts m q).onGrid?).isSome := by
    rw [List.findSome?_isSome_iff]
    refine ⟨top - (17 : Nat), List.mem_map.2 ⟨17, by decide, rfl⟩, ?_⟩
    exact RoundingInterval.isSome_onGrid?_ofParts positive full fine
  obtain ⟨d, found⟩ := Option.isSome_iff_exists.1 found
  rw [found, Option.getD_some]
  obtain ⟨e, mem, grid⟩ := List.exists_of_findSome?_eq_some found
  obtain ⟨n, few, rfl⟩ := List.mem_map.1 mem
  exact (finds_of_onGrid? positive high (List.mem_range.1 few) grid).stripped

end Numeric
end RobotConsole
