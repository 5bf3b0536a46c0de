import RobotConsole.Duration.Basic
import RobotConsole.Proofs.Numeric.Doubles

/-!
# Durations in doubles

The seconds of a duration are added up from two doubles, the whole seconds and the fraction, so
they are rounded twice. A number of milliseconds is rounded when it is divided by a thousand.
Up to some forty days all errors together are less than a nanosecond. The two are then compared
as if they were exact, unless they are equal and not whole.
-/

namespace RobotConsole
namespace Duration

open Numeric

section

variable {d : Duration}

theorem nanos_eq (d : Duration) : d.nanos = 1000000000 * d.seconds + d.subsecNanos :=
  (Nat.div_add_mod d.nanos nanosPerSecond).symm

theorem subsecNanos_lt (d : Duration) : d.subsecNanos < 1000000000 :=
  Nat.mod_lt d.nanos (by decide)

/-! ## The seconds as a double -/

theorem isNatural_toFloat (whole : d.subsecNanos = 0) (short : d.seconds < 2 ^ 53) :
    IsNatural d.toFloat d.seconds := by
  unfold toFloat
  rw [whole]
  exact (isNatural_ofNat short).add_zero rfl

theorem hasMagnitude_billion : HasMagnitude 1e9 .positive 1000000000 := by
  refine ⟨1000000000 * 2 ^ 23, -23, by decide, ⟨by decide, by decide, by decide, by decide⟩, rfl, ?_⟩
  norm_num

theorem fraction_near (part : 0 < d.subsecNanos) :
    exists g, HasMagnitude (Float.ofNat d.subsecNanos / 1e9) .positive g ∧
      |g - d.subsecNanos / 1000000000| ≤ 2 ^ (-53 : Int) := by
  have below := d.subsecNanos_lt
  have small : d.subsecNanos < 2 ^ 53 := below.trans (by decide)
  obtain ⟨e, g, quotient, near⟩ := (hasMagnitude_ofNat part small).div (by exact_mod_cast part)
    (by exact_mod_cast small) hasMagnitude_billion (by norm_num) (by norm_num)
  refine ⟨g, quotient, near.dist_le ?_⟩
  have below : (d.subsecNanos : Rat) < 1000000000 := by exact_mod_cast below
  rw [show (53 + -53 : Int) = 0 by decide, zpow_zero]
  linarith

theorem toFloat_near (positive : 0 < d.nanos) (short : d.seconds < 2 ^ 22) :
    exists v, HasMagnitude d.toFloat .positive v ∧
      |v - d.nanos / 1000000000| ≤ 2 ^ (-31 : Int) + 2 ^ (-53 : Int) := by
  have parts : (d.nanos : Rat) / 1000000000 = d.seconds + d.subsecNanos / 1000000000 := by
    rw [d.nanos_eq]
    push_cast
    ring
  have total := d.nanos_eq
  rw [parts]
  unfold toFloat
  rcases d.subsecNanos.eq_zero_or_pos with whole | part
  · rw [whole, Nat.cast_zero]
    have seconds := hasMagnitude_ofNat (n := d.seconds) (by omega) (short.trans (by decide))
    refine ⟨d.seconds, seconds.add_zero rfl, ?_⟩
    rw [zero_div, add_zero, sub_self, abs_zero]
    positivity
  · obtain ⟨g, fraction, close⟩ := fraction_near part
    rcases d.seconds.eq_zero_or_pos with none | some
    · rw [none, Nat.cast_zero, zero_add]
      refine ⟨g, HasMagnitude.zero_add rfl fraction, close.trans ?_⟩
      exact le_add_of_nonneg_left (by positivity)
    · have seconds := hasMagnitude_ofNat some (short.trans (by decide))
      -- The fraction stays below one second when it is rounded, so the sum stays below the limit.
      have sum : d.seconds + g < 2 ^ (53 + -31 : Int) := by
        have last : (d.seconds : Rat) + 1 ≤ 2 ^ 22 := by exact_mod_cast short
        have below : (d.subsecNanos : Rat) + 1 ≤ 1000000000 := by exact_mod_cast d.subsecNanos_lt
        have upper := (abs_le.1 close).2
        norm_num at upper last ⊢
        linarith
      obtain ⟨e, v, rounded, near⟩ := seconds.add fraction (sum.trans (by norm_num))
      refine ⟨v, rounded, ?_⟩
      calc |v - (d.seconds + d.subsecNanos / 1000000000)|
          = |v - (d.seconds + g) + (g - d.subsecNanos / 1000000000)| := by
            congr 1
            ring
        _ ≤ |v - (d.seconds + g)| + |g - d.subsecNanos / 1000000000| := abs_add_le _ _
        _ ≤ 2 ^ (-31 : Int) + 2 ^ (-53 : Int) := add_le_add (near.dist_le sum) close

/-! ## Milliseconds -/

/-- Milliseconds that are compared with a duration as if they were exact, though both are
rounded. -/
structure Comparable (d : Duration) (millis : Int) : Prop where
  low : -2 ^ 53 < millis
  high : millis < 2 ^ 53
  apart : d.subsecNanos = 0 ∧ d.seconds < 2 ^ 43 ∨
    d.seconds < 2 ^ 22 ∧ (d.nanos : Int) ≠ 1000000 * millis

theorem Comparable.ofSeconds {millis : Int} {s : Nat} (low : -2 ^ 53 < millis)
    (high : millis < 2 ^ 53) (short : s < 2 ^ 43) : (Duration.ofSeconds s).Comparable millis := by
  have seconds : (Duration.ofSeconds s).seconds = s :=
    Nat.mul_div_cancel_left s (by decide)
  refine ⟨low, high, .inl ⟨Nat.mul_mod_right nanosPerSecond s, ?_⟩⟩
  rw [seconds]
  exact short

/-- Rounding does not bring two times past each other that are a nanosecond apart. -/
theorem lt_iff_of_near {n : Nat} {e : Int} {v w : Rat} (near : Nearest e (n / 1000) v)
    (small : n < 2 ^ 53) (close : |w - d.nanos / 1000000000| ≤ 2 ^ (-31 : Int) + 2 ^ (-53 : Int))
    (short : d.seconds < 2 ^ 22) (differs : d.nanos ≠ 1000000 * n) :
    v < w ↔ 1000000 * n < d.nanos := by
  have limit : d.nanos < 1000000000 * 2 ^ 22 := by
    have total := d.nanos_eq
    have below := d.subsecNanos_lt
    omega
  obtain ⟨above, below⟩ := abs_le.1 close
  norm_num at above below
  -- Longer times are rounded more coarsely, but the limit itself is a double that lies between.
  by_cases young : n < 1000 * 2 ^ 22
  · have error := near.dist_le (k := -31) (by
      have young : (n : Rat) < 1000 * 2 ^ 22 := by exact_mod_cast young
      rw [show (53 + -31 : Int) = (22 : Nat) by decide, zpow_natCast]
      linarith)
    obtain ⟨above', below'⟩ := abs_le.1 error
    norm_num at above' below'
    rcases Nat.lt_or_gt_of_ne differs with older | younger
    · have older' : (d.nanos : Rat) + 1 ≤ 1000000 * n := by exact_mod_cast older
      exact ⟨fun less => by linarith, fun less => absurd less older.asymm⟩
    · have younger' : (1000000 * n : Rat) + 1 ≤ d.nanos := by exact_mod_cast younger
      exact ⟨fun _ => younger, fun _ => by linarith⟩
  · have reached : ¬ v < (2 ^ 22 : Nat) := by
      rwa [near.lt_iff small (by decide)]
    have last : w < (2 ^ 22 : Nat) := by
      have limit : (d.nanos : Rat) + 1 ≤ 1000000000 * 2 ^ 22 := by exact_mod_cast limit
      norm_num at limit ⊢
      linarith
    constructor
    · intro less
      exact absurd (less.trans last) reached
    · intro less
      omega

theorem thousandths_lt_toFloat_iff {millis : Int} (low : -2 ^ 53 < millis) (high : millis < 2 ^ 53)
    (positive : 0 < d.nanos) (short : d.seconds < 2 ^ 22)
    (differs : (d.nanos : Int) ≠ 1000000 * millis) :
    Float.ofInt millis / 1000.0 < d.toFloat ↔ 1000000 * millis < d.nanos := by
  obtain ⟨w, rounded, close⟩ := toFloat_near positive short
  cases millis with
  | ofNat n =>
      have high : n < 2 ^ 53 := Int.ofNat_lt.1 high
      rcases n.eq_zero_or_pos with rfl | some
      · have zero : (Float.ofInt (Int.ofNat 0) / 1000.0).toModel.unpack = .zero .positive := rfl
        exact ⟨fun _ => Int.ofNat_lt.2 positive, fun _ => rounded.lt_of_zero zero⟩
      · obtain ⟨e, v, quotient, near⟩ := (hasMagnitude_ofNat some high).thousandths some high
        have differs : d.nanos ≠ 1000000 * n := fun same => differs (congrArg Int.ofNat same)
        calc Float.ofNat n / 1000.0 < d.toFloat ↔ v < w := quotient.lt_iff rounded
          _ ↔ 1000000 * n < d.nanos := lt_iff_of_near near high close short differs
          _ ↔ (1000000 * n : Int) < d.nanos := Int.ofNat_lt.symm
  | negSucc n =>
      have low : n + 1 < 2 ^ 53 := by omega
      have whole := (hasMagnitude_ofNat (Nat.succ_pos n) low).neg
      obtain ⟨e, v, quotient, _⟩ := whole.thousandths (Nat.succ_pos n) low
      exact ⟨fun _ => by omega, fun _ => rounded.lt_of_negative quotient⟩

theorem Comparable.lt_iff {millis : Int} (h : d.Comparable millis) :
    Float.ofInt millis / 1000.0 < d.toFloat ↔ 1000000 * millis < d.nanos := by
  have total := d.nanos_eq
  have natural (whole : d.subsecNanos = 0) (short : d.seconds < 2 ^ 43) :
      Float.ofInt millis / 1000.0 < d.toFloat ↔ 1000000 * millis < d.nanos := by
    have natural := isNatural_toFloat whole (short.trans (by decide))
    rw [natural.thousandths_lt_iff h.low h.high short]
    omega
  rcases h.apart with ⟨whole, short⟩ | ⟨short, differs⟩
  · exact natural whole short
  · rcases d.nanos.eq_zero_or_pos with none | positive
    · exact natural (by omega) (short.trans (by decide))
    · exact thousandths_lt_toFloat_iff h.low h.high positive short differs

end

end Duration
end RobotConsole
