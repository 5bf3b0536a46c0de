import RobotConsole.Proofs.Numeric.Nearest

/-!
# The arithmetic of doubles

What the operations on doubles give, as far as it takes to compare a number of milliseconds in
seconds: whole numbers are exact, a quotient is next to the exact one, and the order is that of
the numbers.
-/

namespace RobotConsole
namespace Numeric

open Float.Model (Format UnpackedFloat totalExponent)
open Float.Model.UnpackedFloat

theorem unpackSign_packComponents (sign : Sign) (e : BitVec 11) (m : BitVec 52) :
    unpackSign (packComponents Format.binary64 sign e m) = sign.toBitVec := by
  show ((sign.toBitVec ++ e ++ m).extractLsb' 63 1) = _
  rw [BitVec.extractLsb'_append_eq_of_le (by decide), BitVec.extractLsb'_append_eq_of_le (by decide)]
  cases sign <;> rfl

theorem toNat_biased {b : Nat} (high : b < 2047) : (BitVec.ofNat 11 b).toNat = b := by
  rw [BitVec.toNat_ofNat]
  omega

theorem finite_biased {b : Nat} (high : b < 2047) : BitVec.ofNat 11 b ≠ -1#11 := by
  intro same
  have := congrArg BitVec.toNat same
  rw [toNat_biased high] at this
  exact absurd this (Nat.ne_of_lt high)

theorem full_biased {b : Nat} (low : 0 < b) (high : b < 2047) : BitVec.ofNat 11 b ≠ 0#11 := by
  intro same
  have := congrArg BitVec.toNat same
  rw [toNat_biased high] at this
  exact absurd this low.ne'

theorem toNat_significand (fraction : BitVec 52) :
    (1#1 ++ fraction).toNat = 2 ^ 52 + fraction.toNat := by
  rw [BitVec.toNat_append, ← Nat.shiftLeft_add_eq_or_of_lt fraction.isLt, Nat.shiftLeft_eq]
  simp

theorem finite_congr {sign sign' : Sign} {m m' : Nat} {e e' : Int} {pos : 0 < m} {pos' : 0 < m'}
    (signs : sign = sign') (mantissas : m = m') (exponents : e = e') :
    UnpackedFloat.finite sign m e pos = .finite sign' m' e' pos' := by
  subst signs mantissas exponents
  rfl

theorem unpack_packComponents (sign : Sign) {b : Nat} (low : 0 < b) (high : b < 2047)
    (fraction : BitVec 52) (pos : 0 < 2 ^ 52 + fraction.toNat) :
    unpack Format.binary64
      (packComponents Format.binary64 sign (BitVec.ofNat 11 b) fraction) =
        .finite sign (2 ^ 52 + fraction.toNat) (b - 1075) pos := by
  unfold unpack
  dsimp only
  rw [unpackExponent_packComponents]
  refine (if_neg (finite_biased high)).trans ((if_neg (full_biased low high)).trans ?_)
  apply finite_congr
  · rw [unpackSign_packComponents]
    cases sign <;> rfl
  · rw [unpackMantissa_packComponents]
    exact toNat_significand fraction
  · rw [toNat_biased high]
    rfl

theorem unpack_pack {m : Nat} {e : Int} (normal : Normal m e) (sign : Sign) (pos : 0 < m) :
    unpack Format.binary64 (pack Format.binary64 (.finite sign m e pos)) = .finite sign m e pos := by
  obtain ⟨low, high, least, greatest⟩ := normal
  obtain ⟨b, biased⟩ : exists b : Nat, (e + (1023 : Nat) + (52 : Nat)).toNat = b := ⟨_, rfl⟩
  have packed : pack Format.binary64 (.finite sign m e pos) =
      packComponents Format.binary64 sign (BitVec.ofNat 11 b) (BitVec.ofNat 52 m) := by
    have fits : ¬ 2 ^ 11 ≤ b + 1 := by omega
    unfold pack
    dsimp only
    rw [log2_of_full low high]
    rw [← biased] at fits ⊢
    exact (if_neg fits).trans (if_pos rfl)
  rw [packed, unpack_packComponents sign (by omega) (by omega) _ (by omega)]
  apply finite_congr rfl
  · rw [BitVec.toNat_ofNat]
    omega
  · omega

/-! ## Doubles with all of their bits -/

/-- A finite double whose significand fills its bits, by its magnitude. -/
structure HasMagnitude (x : Float) (sign : Sign) (q : Rat) : Prop where
  parts : exists m e pos, Normal m e ∧ x.toModel.unpack = .finite sign m e pos ∧ (m : Rat) * 2 ^ e = q

theorem Normal.bounds {m : Nat} {e : Int} (normal : Normal m e) :
    (2 : Rat) ^ (52 + e) ≤ m * 2 ^ e ∧ (m : Rat) * 2 ^ e < 2 ^ (53 + e) := by
  have unit : (0 : Rat) < 2 ^ e := by positivity
  have low : (2 : Rat) ^ 52 ≤ m := by exact_mod_cast normal.low
  have high : (m : Rat) < 2 ^ 53 := by exact_mod_cast normal.high
  rw [zpow_add₀ two_ne_zero, zpow_add₀ two_ne_zero]
  exact ⟨mul_le_mul_of_nonneg_right low unit.le, mul_lt_mul_of_pos_right high unit⟩

theorem compare_normal {m m' : Nat} {e e' : Int} (normal : Normal m e) (normal' : Normal m' e') :
    (compare e e').then (compare m m') = .lt ↔ (m : Rat) * 2 ^ e < m' * 2 ^ e' := by
  rcases lt_trichotomy e e' with less | rfl | greater
  · rw [compare_lt_iff_lt.2 less]
    refine ⟨fun _ => ?_, fun _ => rfl⟩
    calc (m : Rat) * 2 ^ e < 2 ^ (53 + e) := normal.bounds.2
      _ ≤ 2 ^ (52 + e') := zpow_le_zpow_right₀ one_le_two (by omega)
      _ ≤ m' * 2 ^ e' := normal'.bounds.1
  · rw [compare_eq_iff_eq.2 rfl, mul_lt_mul_iff_of_pos_right (by positivity), Nat.cast_lt]
    exact compare_lt_iff_lt
  · rw [compare_gt_iff_gt.2 greater]
    refine ⟨nofun, fun less => absurd less (not_lt.2 ?_)⟩
    calc (m' : Rat) * 2 ^ e' ≤ 2 ^ (53 + e') := normal'.bounds.2.le
      _ ≤ 2 ^ (52 + e) := zpow_le_zpow_right₀ one_le_two (by omega)
      _ ≤ m * 2 ^ e := normal.bounds.1

section

variable {x y : Float} {p q : Rat}

theorem lt_iff_unpack (x y : Float) : x < y ↔ x.toModel.unpack.lt y.toModel.unpack = true := by
  show decide (Float.Model.lt _ _ = true) = true ↔ _
  exact decide_eq_true_iff

theorem compare_self_ne_lt (x : UnpackedFloat) : x.compare x ≠ some .lt := by
  cases x with
  | infinity sign => cases sign <;> decide
  | notANumber => decide
  | zero sign => cases sign <;> decide
  | finite sign mantissa exponent positive =>
      have same : (compare exponent exponent).then (compare mantissa mantissa) = .eq := by
        rw [compare_eq_iff_eq.2 rfl, compare_eq_iff_eq.2 rfl]
        rfl
      cases sign with
      | negative =>
          show some ((compare exponent exponent).then (compare mantissa mantissa)).swap ≠ some .lt
          rw [same]
          decide
      | positive =>
          show some ((compare exponent exponent).then (compare mantissa mantissa)) ≠ some .lt
          rw [same]
          decide

theorem not_lt_self (x : Float) : ¬ x < x := by
  have same := compare_self_ne_lt x.toModel.unpack
  rw [lt_iff_unpack]
  simpa [UnpackedFloat.lt] using same

theorem HasMagnitude.lt_iff (h : HasMagnitude x .positive p) (h' : HasMagnitude y .positive q) :
    x < y ↔ p < q := by
  obtain ⟨m, e, pos, normal, unpacked, rfl⟩ := h
  obtain ⟨m', e', pos', normal', unpacked', rfl⟩ := h'
  rw [lt_iff_unpack, unpacked, unpacked', ← compare_normal normal normal']
  show (some ((compare e e').then (compare m m')) == some .lt) = true ↔ _
  rw [beq_iff_eq, Option.some_inj]

theorem hasMagnitude_pack {m : Nat} {e : Int} (normal : Normal m e) (sign : Sign) (pos : 0 < m) :
    HasMagnitude (.ofModel (.pack (.finite sign m e pos))) sign (m * 2 ^ e) :=
  ⟨m, e, pos, normal, unpack_pack normal sign pos, rfl⟩

theorem HasMagnitude.neg (h : HasMagnitude x .positive q) : HasMagnitude x.neg .negative q := by
  obtain ⟨m, e, pos, normal, unpacked, rfl⟩ := h
  have negated : x.neg = .ofModel (.pack (.finite .negative m e pos)) := by
    show Float.ofModel (.pack x.toModel.unpack.neg) = _
    rw [unpacked]
    rfl
  rw [negated]
  exact hasMagnitude_pack normal .negative pos

theorem Normal.exponent {m : Nat} {e : Int} (normal : Normal m e) (low : 1 ≤ (m : Rat) * 2 ^ e)
    (high : (m : Rat) * 2 ^ e < 2 ^ 53) : -52 ≤ e ∧ e ≤ 0 := by
  constructor
  · have less : (2 : Rat) ^ (0 : Int) < 2 ^ (53 + e) := by
      rw [zpow_zero]
      exact low.trans_lt normal.bounds.2
    have := (zpow_lt_zpow_iff_right₀ one_lt_two).1 less
    omega
  · have less : (2 : Rat) ^ (52 + e) < 2 ^ (53 : Int) := normal.bounds.1.trans_lt high
    have := (zpow_lt_zpow_iff_right₀ one_lt_two).1 less
    omega

/-! ## Whole numbers -/

theorem hasMagnitude_toFloat {n : UInt64} (positive : 0 < n.toNat) (small : n.toNat < 2 ^ 53) :
    HasMagnitude n.toFloat .positive n.toNat := by
  obtain ⟨m, e, pos, normal, rounded, whole⟩ := round_small positive small .positive
  have unpacked : n.toFloat = .ofModel (.pack (.finite .positive m e pos)) := by
    show Float.ofModel (.pack (UnpackedFloat.normalize Format.binary64 n.toNat 0 .positive)) = _
    rw [normalize_of_pos positive, rounded]
  rw [unpacked, ← whole]
  exact hasMagnitude_pack normal .positive pos

theorem HasMagnitude.mul_one (h : HasMagnitude x .positive q) (low : 1 ≤ q) (high : q < 2 ^ 53)
    (one : y.toModel.unpack = .finite .positive (2 ^ 52) (-52) (by decide)) :
    HasMagnitude (x * y) .positive q := by
  obtain ⟨m, e, pos, normal, unpacked, rfl⟩ := h
  obtain ⟨least, greatest⟩ := normal.exponent low high
  have log : (m * 2 ^ 52).log2 = 52 + 52 := by
    rw [Nat.log2_eq_iff (by have := normal.low; omega), pow_add, add_assoc, pow_add]
    exact ⟨Nat.mul_le_mul_right _ normal.low, by have := normal.high; omega⟩
  obtain ⟨m', e', pos', normal', rounded, whole⟩ := roundWithAccuracy_exact log
    (show -1074 ≤ e + -52 by omega) (by omega) rfl .positive
  have product : x * y = .ofModel (.pack (.finite .positive m' e' pos')) := by
    show Float.ofModel (.pack (UnpackedFloat.mul Format.binary64 x.toModel.unpack y.toModel.unpack)) = _
    rw [unpacked, one]
    exact congrArg (Float.ofModel ∘ .pack) rounded
  have value : (m : Rat) * 2 ^ e = m' * 2 ^ e' := by
    rw [whole, zpow_add₀ two_ne_zero]
    push_cast
    have : (2 : Rat) ^ (-52 : Int) = 1 / 2 ^ 52 := by norm_num
    rw [this]
    ring
  rw [product, value]
  exact hasMagnitude_pack normal' .positive pos'

theorem hasMagnitude_ofNat {n : Nat} (positive : 0 < n) (small : n < 2 ^ 53) :
    HasMagnitude (Float.ofNat n) .positive n := by
  have word : n.toUInt64.toNat = n := by
    show n % 2 ^ 64 = n
    omega
  have converted : HasMagnitude n.toUInt64.toFloat .positive n := by
    have := hasMagnitude_toFloat (n := n.toUInt64) (by omega) (by omega)
    rwa [word] at this
  have product : Float.ofNat n = n.toUInt64.toFloat * Float.ofBits 0x3FF0000000000000 := by
    show Float.ofScientific n false 0 = _
    unfold Float.ofScientific
    rw [dif_pos ⟨small, by decide⟩]
    rfl
  rw [product]
  exact converted.mul_one (by exact_mod_cast positive) (by exact_mod_cast small) rfl

/-! ## Quotients -/

section

variable {m m' : Nat} {e e' : Int} (normal : Normal m e) (normal' : Normal m' e')

include normal normal'

theorem divCore_normal (least : -1021 ≤ e - e') :
    divCore Format.binary64 m e m' e' = (m * 2 ^ 53 / m', e - e' - 53,
      accuracyOfFraction (m * 2 ^ 53 % m') m') := by
  have target : min (e - e')
      (Format.binary64.targetExponent (totalExponent m e - totalExponent m' e')) = e - e' - 53 := by
    unfold Format.targetExponent totalExponent
    rw [log2_of_full normal.low normal.high, log2_of_full normal'.low normal'.high]
    show min (e - e') (max (((52 : Nat) : Int) + 1 + e - (((52 : Nat) : Int) + 1 + e') -
      ((1 + 52 : Nat) : Int)) (3 - 2 ^ (11 - 1) - ((1 + 52 : Nat) : Int))) = _
    omega
  have amount : (e - e' - (e - e' - 53)).toNat = 53 := by omega
  unfold divCore
  dsimp only
  rw [target, amount, Nat.shiftLeft_eq]

theorem log2_quotient : exists k, (m * 2 ^ 53 / m').log2 = 52 + k ∧ k ≤ 1 := by
  have pos' : 0 < m' := Nat.lt_of_lt_of_le (by decide) normal'.low
  have least : 2 ^ 52 ≤ m * 2 ^ 53 / m' := by
    rw [Nat.le_div_iff_mul_le pos']
    exact Nat.mul_le_mul normal.low normal'.high.le
  have greatest : m * 2 ^ 53 / m' < 2 ^ 54 := by
    rw [Nat.div_lt_iff_lt_mul pos']
    calc m * 2 ^ 53 < 2 ^ 53 * 2 ^ 53 := Nat.mul_lt_mul_of_pos_right normal.high (by decide)
      _ = 2 ^ 54 * 2 ^ 52 := by decide
      _ ≤ 2 ^ 54 * m' := Nat.mul_le_mul_left _ normal'.low
  by_cases wide : m * 2 ^ 53 / m' < 2 ^ 53
  · exact ⟨0, log2_of_full least wide, by decide⟩
  · refine ⟨1, ?_, le_rfl⟩
    rw [Nat.log2_eq_iff (by omega)]
    exact ⟨Nat.not_lt.1 wide, greatest⟩

end

/-- A quotient of magnitudes is rounded to a double next to it. -/
theorem HasMagnitude.div {sign : Sign} (h : HasMagnitude x sign p) (low : 1 ≤ p)
    (high : p < 2 ^ 53) (h' : HasMagnitude y .positive q) (low' : 1 ≤ q) (high' : q < 2 ^ 53) :
    exists e v, HasMagnitude (x / y) sign v ∧ Nearest e (p / q) v := by
  obtain ⟨m, e, pos, normal, unpacked, rfl⟩ := h
  obtain ⟨m', e', pos', normal', unpacked', rfl⟩ := h'
  obtain ⟨least, greatest⟩ := normal.exponent low high
  obtain ⟨least', greatest'⟩ := normal'.exponent low' high'
  obtain ⟨k, log, short⟩ := log2_quotient normal normal'
  obtain ⟨m₁, e₁, pos₁, normal₁, rounded, near⟩ :=
    roundWithAccuracy_nearest (describes_quotient (m * 2 ^ 53) pos') log
      (show -1074 ≤ e - e' - 53 by omega) (by omega) sign
  have quotient : x / y = .ofModel (.pack (.finite sign m₁ e₁ pos₁)) := by
    have same : sign / Sign.positive = sign := by cases sign <;> rfl
    show Float.ofModel (.pack (UnpackedFloat.div Format.binary64 x.toModel.unpack
      y.toModel.unpack)) = _
    rw [unpacked, unpacked']
    unfold UnpackedFloat.div
    dsimp only
    rw [divCore_normal normal normal' (by omega), same]
    exact congrArg (Float.ofModel ∘ .pack) rounded
  have value : ((m * 2 ^ 53 : Nat) : Rat) / m' * 2 ^ (e - e' - 53) = m * 2 ^ e / (m' * 2 ^ e') := by
    rw [zpow_sub₀ two_ne_zero, zpow_sub₀ two_ne_zero]
    push_cast
    field_simp
  rw [value] at near
  rw [quotient]
  exact ⟨_, _, hasMagnitude_pack normal₁ sign pos₁, near⟩

/-! ## Sums -/

theorem add_finite {m m' j j' : Nat} {e : Int} (pos : 0 < m) (pos' : 0 < m') (least : j = 0 ∨ j' = 0) :
    UnpackedFloat.add Format.binary64 (.finite .positive m (e + j) pos)
        (.finite .positive m' (e + j') pos') =
      UnpackedFloat.normalize Format.binary64 (m * 2 ^ j + m' * 2 ^ j' : Nat) e .positive := by
  have smaller : min (e + j) (e + j') = e := by omega
  have amount (j : Nat) : (e + j - e).toNat = j := by omega
  unfold UnpackedFloat.add decreaseExponent
  dsimp only
  rw [smaller, amount, amount, Nat.shiftLeft_eq, Nat.shiftLeft_eq]
  rfl

theorem exists_common (e e' : Int) : exists (f : Int) (j j' : Nat), e = f + j ∧ e' = f + j' ∧
    (j = 0 ∨ j' = 0) :=
  ⟨min e e', (e - min e e').toNat, (e' - min e e').toNat, by omega, by omega, by omega⟩

/-- A sum of magnitudes is rounded to a double next to it. -/
theorem HasMagnitude.add (h : HasMagnitude x .positive p) (h' : HasMagnitude y .positive q)
    (high : p + q < 2 ^ 53) :
    exists e v, HasMagnitude (x + y) .positive v ∧ Nearest e (p + q) v := by
  obtain ⟨m, e, pos, normal, unpacked, rfl⟩ := h
  obtain ⟨m', e', pos', normal', unpacked', rfl⟩ := h'
  obtain ⟨f, j, j', rfl, rfl, least⟩ := exists_common e e'
  obtain ⟨n, sum⟩ : exists n, m * 2 ^ j + m' * 2 ^ j' = n := ⟨_, rfl⟩
  have value : (m : Rat) * 2 ^ (f + j) + m' * 2 ^ (f + j') = n * 2 ^ f := by
    rw [← sum, zpow_add₀ two_ne_zero, zpow_add₀ two_ne_zero, zpow_natCast, zpow_natCast]
    push_cast
    ring
  have full : 2 ^ 52 ≤ n := by
    calc 2 ^ 52 ≤ m := normal.low
      _ ≤ m * 2 ^ j := Nat.le_mul_of_pos_right m (Nat.two_pow_pos j)
      _ ≤ n := by omega
  obtain ⟨k, log⟩ : exists k, n.log2 = 52 + k := by
    have := (Nat.le_log2 (by omega)).2 full
    exact ⟨n.log2 - 52, by omega⟩
  -- The common unit is one of the two, and the sum is too small to need a large one.
  have bottom : -1074 ≤ f := by
    have := normal.least
    have := normal'.least
    omega
  have top : f + k ≤ 970 := by
    have bits : (2 : Rat) ^ (52 + k) ≤ n := by
      exact_mod_cast ((Nat.log2_eq_iff (by omega)).1 log).1
    have less : (2 : Rat) ^ (52 + k + f) < 2 ^ (53 : Int) := by
      calc (2 : Rat) ^ (52 + k + f) = 2 ^ (52 + k) * 2 ^ f := by
            rw [zpow_add₀ two_ne_zero]
            norm_cast
        _ ≤ n * 2 ^ f := mul_le_mul_of_nonneg_right bits (by positivity)
        _ < 2 ^ (53 : Int) := value ▸ high
    have := (zpow_lt_zpow_iff_right₀ one_lt_two).1 less
    omega
  obtain ⟨m₁, e₁, pos₁, normal₁, rounded, near⟩ :=
    roundWithAccuracy_nearest (describes_exact n) log bottom top .positive
  have result : x + y = .ofModel (.pack (.finite .positive m₁ e₁ pos₁)) := by
    show Float.ofModel (.pack (UnpackedFloat.add Format.binary64 x.toModel.unpack
      y.toModel.unpack)) = _
    rw [unpacked, unpacked', add_finite pos pos' least, sum, normalize_of_pos (by omega),
      round_full log bottom, rounded]
  rw [result, value]
  exact ⟨_, _, hasMagnitude_pack normal₁ .positive pos₁, near⟩

theorem HasMagnitude.of_add {z : Float} {sign : Sign} (h : HasMagnitude z sign q)
    (same : UnpackedFloat.add Format.binary64 x.toModel.unpack y.toModel.unpack = z.toModel.unpack) :
    HasMagnitude (x + y) sign q := by
  obtain ⟨m, e, pos, normal, unpacked, rfl⟩ := h
  have sum : x + y = .ofModel (.pack (.finite sign m e pos)) := by
    show Float.ofModel (.pack (UnpackedFloat.add _ x.toModel.unpack y.toModel.unpack)) = _
    rw [same, unpacked]
  rw [sum]
  exact hasMagnitude_pack normal sign pos

theorem HasMagnitude.add_zero {sign : Sign} (h : HasMagnitude x sign p)
    (zero : y.toModel.unpack = .zero .positive) : HasMagnitude (x + y) sign p := by
  apply h.of_add
  obtain ⟨m, e, pos, _, unpacked, _⟩ := h
  rw [unpacked, zero]
  rfl

theorem HasMagnitude.zero_add {sign : Sign} (zero : x.toModel.unpack = .zero .positive)
    (h : HasMagnitude y sign q) : HasMagnitude (x + y) sign q := by
  apply h.of_add
  obtain ⟨m, e, pos, _, unpacked, _⟩ := h
  rw [unpacked, zero]
  rfl

/-! ## Naturals -/

/-- The double is a natural number. -/
def IsNatural (x : Float) (n : Nat) : Prop :=
  n = 0 ∧ x.toModel.unpack = .zero .positive ∨ HasMagnitude x .positive n

theorem isNatural_ofNat {n : Nat} (small : n < 2 ^ 53) : IsNatural (Float.ofNat n) n := by
  cases n with
  | zero => exact .inl ⟨rfl, rfl⟩
  | succ n => exact .inr (hasMagnitude_ofNat (Nat.succ_pos n) small)

theorem IsNatural.add_zero {n : Nat} (h : IsNatural x n) (zero : y.toModel.unpack = .zero .positive) :
    IsNatural (x + y) n := by
  rcases h with ⟨none, unpacked⟩ | finite
  · refine .inl ⟨none, ?_⟩
    show (Float.Model.pack (UnpackedFloat.add _ x.toModel.unpack y.toModel.unpack)).unpack = _
    rw [unpacked, zero]
    rfl
  · exact .inr (finite.add_zero zero)

theorem HasMagnitude.lt_of_negative (h : HasMagnitude y .positive q)
    (h' : HasMagnitude x .negative p) : x < y := by
  obtain ⟨m, e, pos, _, unpacked, _⟩ := h
  obtain ⟨m', e', pos', _, unpacked', _⟩ := h'
  rw [lt_iff_unpack, unpacked, unpacked']
  rfl

theorem HasMagnitude.lt_of_zero (h : HasMagnitude y .positive q)
    (zero : x.toModel.unpack = .zero .positive) : x < y := by
  obtain ⟨m, e, pos, _, unpacked, _⟩ := h
  rw [lt_iff_unpack, unpacked, zero]
  rfl

theorem IsNatural.lt_of_negative {n : Nat} (h : IsNatural y n) (h' : HasMagnitude x .negative q) :
    x < y := by
  rcases h with ⟨_, zero⟩ | finite
  · obtain ⟨m, e, pos, _, unpacked, _⟩ := h'
    rw [lt_iff_unpack, unpacked, zero]
    rfl
  · exact finite.lt_of_negative h'

theorem IsNatural.lt_of_zero {n : Nat} (h : IsNatural y n) (zero : x.toModel.unpack = .zero .positive) :
    x < y ↔ 0 < n := by
  rcases h with ⟨rfl, zero'⟩ | finite
  · rw [lt_iff_unpack, zero, zero']
    exact ⟨nofun, nofun⟩
  · refine ⟨fun _ => ?_, fun _ => finite.lt_of_zero zero⟩
    obtain ⟨m, e, pos, _, _, value⟩ := finite
    have : (0 : Rat) < n := by
      rw [← value]
      positivity
    exact_mod_cast this

theorem IsNatural.lt_iff_of_positive {n : Nat} (h : IsNatural y n) (h' : HasMagnitude x .positive q) :
    x < y ↔ q < n := by
  rcases h with ⟨rfl, zero⟩ | finite
  · obtain ⟨m, e, pos, normal, unpacked, rfl⟩ := h'
    rw [lt_iff_unpack, unpacked, zero, Nat.cast_zero]
    exact ⟨nofun, fun less => absurd less (not_lt.2 (by positivity))⟩
  · exact h'.lt_iff finite

theorem hasMagnitude_thousand : HasMagnitude 1000.0 .positive 1000 := by
  refine ⟨1000 * 2 ^ 43, -43, by decide, ⟨by decide, by decide, by decide, by decide⟩, rfl, ?_⟩
  norm_num

theorem HasMagnitude.thousandths {sign : Sign} {n : Nat} (h : HasMagnitude x sign n)
    (positive : 0 < n) (small : n < 2 ^ 53) :
    exists e v, HasMagnitude (x / 1000.0) sign v ∧ Nearest e (n / 1000) v :=
  h.div (by exact_mod_cast positive) (by exact_mod_cast small) hasMagnitude_thousand
    (by norm_num) (by norm_num)

theorem IsNatural.thousandths_lt_iff {n : Int} {s : Nat} (h : IsNatural y s) (low : -2 ^ 53 < n)
    (high : n < 2 ^ 53) (short : s < 2 ^ 43) : Float.ofInt n / 1000.0 < y ↔ n < 1000 * s := by
  cases n with
  | ofNat n =>
      have high : n < 2 ^ 53 := Int.ofNat_lt.1 high
      rcases n.eq_zero_or_pos with rfl | positive
      · have zero : (Float.ofInt (Int.ofNat 0) / 1000.0).toModel.unpack = .zero .positive := rfl
        rw [h.lt_of_zero zero]
        show _ ↔ (0 : Int) < 1000 * s
        omega
      · obtain ⟨e, v, quotient, near⟩ := (hasMagnitude_ofNat positive high).thousandths positive high
        refine (h.lt_iff_of_positive quotient).trans ((near.lt_iff high short).trans ?_)
        exact Int.ofNat_lt.symm
  | negSucc n =>
      have low : n + 1 < 2 ^ 53 := by omega
      have whole := (hasMagnitude_ofNat (Nat.succ_pos n) low).neg
      obtain ⟨e, v, quotient, _⟩ := whole.thousandths (Nat.succ_pos n) low
      exact ⟨fun _ => by omega, fun _ => h.lt_of_negative quotient⟩

end

end Numeric
end RobotConsole
