import RobotConsole.Proofs.Json.Numbers
import RobotConsole.Proofs.Numeric.Pointed
import RobotConsole.Proofs.Numeric.Products

/-!
# Literals of doubles

The literal of a finite double is a number in JSON, at most half a unit in the last place away from
the double, and a reader can hold it: its digits fit into 64 bits, and their scaling does not
overflow.
-/

namespace RobotConsole

/-! ## Exact values -/

namespace Numeric

def BinaryParts.value (p : BinaryParts) : Rat :=
  (if p.negative then -1 else 1) * (p.significand * 2 ^ p.exponent)

structure BinaryParts.Fits (p : BinaryParts) : Prop where
  significand : p.significand < 2 ^ 53
  low : -1074 ≤ p.exponent
  high : p.exponent ≤ 971

theorem fits_of_ofBits {bits : Nat} {p : BinaryParts} (finite : Binary64.ofBits bits = .finite p) :
    p.Fits := by
  unfold Binary64.ofBits at finite
  dsimp only at finite
  have fraction : bits % wordSize 52 < wordSize 52 := Nat.mod_lt _ (by decide)
  have biased : (bits >>> 52) % wordSize 11 < wordSize 11 := Nat.mod_lt _ (by decide)
  split at finite
  · split at finite <;> cases finite
  · rename_i notLast
    split at finite
    · cases finite
      constructor
      · exact fraction.trans (by decide)
      · exact Int.le_refl _
      · show (-1074 : Int) ≤ 971
        decide
    · cases finite
      constructor
      · show wordSize 52 + bits % wordSize 52 < 2 ^ 53
        have : wordSize 52 + wordSize 52 = 2 ^ 53 := rfl
        omega
      · show -1074 ≤ (((bits >>> 52) % wordSize 11 : Nat) : Int) - 1075
        omega
      · have : wordSize 11 = 2048 := rfl
        show (((bits >>> 52) % wordSize 11 : Nat) : Int) - 1075 ≤ 971
        omega

end Numeric

namespace Json
namespace Draft

open Numeric

namespace NumberToken

def digits (t : NumberToken) : Nat :=
  ofDigits (t.whole ++ t.fraction)

def lastExponent (t : NumberToken) : Int :=
  t.exponent - t.fraction.length

def value (t : NumberToken) : Rat :=
  (if t.negative then -1 else 1) * (DecimalParts.mk t.digits t.lastExponent).value

end NumberToken

/-! ## Digits -/

theorem takeDigits_of_lt {n : Nat} {cs : List Char}
    (small : cs.foldl (fun n c => 10 * n + digitValue c) n < wordSize 64) :
    takeDigits n cs = (cs.foldl (fun n c => 10 * n + digitValue c) n, []) := by
  induction cs generalizing n with
  | nil => rfl
  | cons c cs ih =>
      have below : 10 * n + digitValue c < wordSize 64 :=
        Nat.lt_of_le_of_lt (le_foldl_digits _ cs) small
      unfold takeDigits
      dsimp only
      rw [if_pos below]
      exact ih small

theorem double?_of_lt {t : NumberToken} (small : t.digits < wordSize 64) :
    t.double? = (scale 4 (Float.ofNat t.digits) t.lastExponent).map fun x =>
      if t.negative then -x else x := by
  have all : t.fraction.foldl (fun n c => 10 * n + digitValue c) (ofDigits t.whole) = t.digits :=
    List.foldl_append.symm
  have whole : ofDigits t.whole < wordSize 64 := by
    refine Nat.lt_of_le_of_lt ?_ small
    rw [← all]
    exact le_foldl_digits _ _
  have first : takeDigits 0 t.whole = (ofDigits t.whole, []) := takeDigits_of_lt whole
  have second : takeDigits (ofDigits t.whole) t.fraction = (t.digits, []) := by
    rw [takeDigits_of_lt (all ▸ small), all]
  unfold NumberToken.double?
  rw [first]
  dsimp only
  rw [second]
  dsimp only [List.length_nil]
  rw [Nat.sub_zero, Nat.cast_zero, add_zero]
  show (scale 4 (Float.ofNat t.digits) t.lastExponent).bind _ = _
  cases scale 4 (Float.ofNat t.digits) t.lastExponent <;> rfl

/-! ## Scaling -/

theorem isSome_scale_of_neg {fuel : Nat} {e : Int} (x : Float) (neg : e < 0)
    (few : -(308 * fuel) ≤ e) : (scale fuel x e).isSome := by
  induction fuel generalizing x e with
  | zero => omega
  | succ fuel ih =>
      unfold scale
      dsimp only
      rw [if_pos neg]
      split
      · rfl
      · split
        · rfl
        · rw [if_neg (by omega)]
          exact ih _ (by omega) (by push_cast at few; omega)

theorem isSome_scale_of_nonneg {n k : Nat} (short : k ≤ 308)
    (below : (Float.ofNat n * Float.ofScientific 1 false k).isInf = false) (fuel : Nat) :
    (scale (fuel + 1) (Float.ofNat n) k).isSome := by
  unfold scale
  dsimp only [Int.natAbs_natCast]
  rw [if_pos short, if_neg (Int.not_lt.2 (Int.natCast_nonneg k)), below]
  rfl

theorem exponent_ge_of_finds {m : Nat} {q : Int} {d : DecimalParts} (finds : Finds m q d)
    (positive : 0 < m) (low : -1074 ≤ q) : -1091 ≤ d.exponent := by
  by_contra small
  have least : (1 : Rat) ≤ m := by exact_mod_cast positive
  have inverse (n : Nat) : (10 : Rat) ^ (-(n : Int)) ≤ 2 ^ (-(n : Int)) := by
    rw [zpow_neg, zpow_neg, zpow_natCast, zpow_natCast]
    exact inv_anti₀ (by positivity) (pow_le_pow_left₀ (by norm_num) (by norm_num) n)
  have less : (10 : Rat) ^ (d.exponent + 17) < 2 ^ q := calc
    (10 : Rat) ^ (d.exponent + 17) ≤ 10 ^ (-((1075 : Nat) : Int)) :=
        zpow_le_zpow_right₀ (by norm_num) (by omega)
    _ ≤ 2 ^ (-((1075 : Nat) : Int)) := inverse 1075
    _ < 2 ^ q := zpow_lt_zpow_right₀ one_lt_two (by omega)
  have unit : (0 : Rat) < 2 ^ q := by positivity
  have coarse := finds.coarse
  nlinarith

theorem bounds_of_finds {m digits k : Nat} {q : Int} (finds : Finds m q ⟨digits, k⟩)
    (full : m < 2 ^ 53) (high : q ≤ 971) (notGreatest : ¬ (2 ^ 53 - 4 < m ∧ q = 971)) :
    k ≤ 308 ∧ ((digits * 10 ^ k : Nat) : Rat) * (1 + 1 / 2 ^ 53) ^ 2 < overflow := by
  have some : (1 : Rat) ≤ digits := by exact_mod_cast Nat.pos_of_ne_zero finds.some
  have power : (0 : Rat) < 10 ^ k := by positivity
  have whole : (m : Rat) + 1 ≤ 2 ^ 53 := by exact_mod_cast full
  have unit : (0 : Rat) < 2 ^ q := by positivity
  have value : ((digits * 10 ^ k : Nat) : Rat) ≤ (m + 1 / 2) * 2 ^ q := by
    have near := (abs_le.1 finds.near).2
    unfold DecimalParts.value at near
    rw [zpow_natCast] at near
    push_cast
    linarith
  constructor
  · have power : (10 : Rat) ^ k < 10 ^ 309 := calc
      (10 : Rat) ^ k ≤ digits * 10 ^ k := le_mul_of_one_le_left power.le some
      _ ≤ (m + 1 / 2) * 2 ^ q := by exact_mod_cast value
      _ ≤ 2 ^ 53 * 2 ^ (971 : Int) :=
          mul_le_mul (by linarith) (zpow_le_zpow_right₀ one_le_two high) unit.le (by positivity)
      _ < 10 ^ 309 := by
          have : 2 ^ 53 * 2 ^ 971 < 10 ^ 309 := by decide +kernel
          exact_mod_cast this
    have := (pow_lt_pow_iff_right₀ (by norm_num)).1 power
    omega
  · refine (mul_le_mul_of_nonneg_right value (by positivity)).trans_lt ?_
    unfold overflow
    rcases lt_or_eq_of_le high with less | rfl
    · have half : (2 : Rat) ^ q * 2 ≤ 2 ^ (971 : Int) := by
        rw [← zpow_add_one₀ two_ne_zero]
        exact zpow_le_zpow_right₀ one_le_two less
      generalize (2 : Rat) ^ (971 : Int) = limit at half ⊢
      calc ((m : Rat) + 1 / 2) * 2 ^ q * (1 + 1 / 2 ^ 53) ^ 2
          ≤ 2 ^ 53 * 2 ^ q * (3 / 2) := by
            gcongr
            · linarith
            · norm_num
        _ = 2 ^ 53 * (3 / 4) * (2 ^ q * 2) := by ring
        _ ≤ 2 ^ 53 * (3 / 4) * limit := by gcongr
        _ < (2 ^ 53 - 1 / 2) * limit := by
            refine mul_lt_mul_of_pos_right (by norm_num) ?_
            linarith
    · have few : (m : Rat) + 4 ≤ 2 ^ 53 := by
        have : m + 4 ≤ 2 ^ 53 := by omega
        exact_mod_cast this
      generalize (2 : Rat) ^ (971 : Int) = limit at unit ⊢
      calc ((m : Rat) + 1 / 2) * limit * (1 + 1 / 2 ^ 53) ^ 2
          ≤ (2 ^ 53 - 7 / 2) * limit * (1 + 1 / 2 ^ 53) ^ 2 := by
            gcongr
            linarith
        _ = (2 ^ 53 - 7 / 2) * (1 + 1 / 2 ^ 53) ^ 2 * limit := by ring
        _ < (2 ^ 53 - 1 / 2) * limit := mul_lt_mul_of_pos_right (by norm_num) unit

/-- For the greatest doubles the estimate of the error is too coarse. -/
theorem isSome_scale_greatest : forall n : Fin 3,
    (scale 4 (Float.ofNat (shortestDecimal (2 ^ 53 - 1 - n) 971).digits)
      (shortestDecimal (2 ^ 53 - 1 - n) 971).exponent).isSome := by
  decide +kernel

theorem isSome_scale_zero : (scale 4 (Float.ofNat 0) 0).isSome := by
  decide +kernel

theorem isSome_scale_shortest {m : Nat} {q : Int} (full : m < 2 ^ 53) (low : -1074 ≤ q)
    (high : q ≤ 971) :
    (scale 4 (Float.ofNat (shortestDecimal m q).digits) (shortestDecimal m q).exponent).isSome := by
  rcases Nat.eq_zero_or_pos m with rfl | positive
  · exact isSome_scale_zero
  by_cases greatest : 2 ^ 53 - 4 < m ∧ q = 971
  · obtain ⟨n, rfl⟩ : exists n : Fin 3, m = 2 ^ 53 - 1 - n :=
      ⟨⟨2 ^ 53 - 1 - m, by omega⟩, by show m = 2 ^ 53 - 1 - (2 ^ 53 - 1 - m); omega⟩
    rw [greatest.2]
    exact isSome_scale_greatest n
  · have finds := finds_shortestDecimal positive full q
    generalize shortestDecimal m q = d at finds ⊢
    rcases lt_or_ge d.exponent 0 with neg | nonneg
    · have least := exponent_ge_of_finds finds positive low
      exact isSome_scale_of_neg _ neg (by omega)
    · obtain ⟨digits, e⟩ := d
      obtain ⟨k, rfl⟩ := Int.eq_ofNat_of_zero_le nonneg
      have some : 0 < digits := Nat.pos_of_ne_zero finds.some
      obtain ⟨short, below⟩ := bounds_of_finds finds full high greatest
      exact isSome_scale_of_nonneg short (not_isInf_mul_power some short below) 3

/-! ## Literals -/

namespace Numeral

def ofSpelling (negative : Bool) (s : Spelling) : Numeral where
  negative
  whole := Nat.toDigits 10 (s.units / 10 ^ s.places)
  fraction := if s.places = 0 then [] else (padded s.places (s.units % 10 ^ s.places)).toList
  exponent? := s.exponent?
  wholeDigits _ mem := isDigit_of_mem_toDigits mem
  noZeroAhead := ⟨Nat.toDigits_ne_nil, head_toDigits _⟩
  fractionDigits c mem := by
    split at mem
    · cases mem
    · exact isDigit_of_mem_padded mem

variable (negative : Bool) (s : Spelling)

theorem length_fraction_ofSpelling : (ofSpelling negative s).fraction.length = s.places := by
  show List.length (if s.places = 0 then [] else _) = _
  split
  · rename_i none
    exact none.symm
  · rename_i some
    exact length_padded (Nat.pos_of_ne_zero some) (Nat.mod_lt _ (Nat.pow_pos (by decide)))

theorem digits_ofSpelling : (ofSpelling negative s).token.digits = s.units := by
  have whole : ofDigits (ofSpelling negative s).whole = s.units / 10 ^ s.places :=
    ofDigits_toDigits _
  have fraction : ofDigits (ofSpelling negative s).fraction = s.units % 10 ^ s.places := by
    show ofDigits (if s.places = 0 then [] else _) = _
    split
    · rename_i none
      rw [none, pow_zero, Nat.mod_one]
      rfl
    · exact ofDigits_padded _ _
  unfold NumberToken.digits
  show ofDigits ((ofSpelling negative s).whole ++ (ofSpelling negative s).fraction) = _
  rw [ofDigits_append, whole, fraction, length_fraction_ofSpelling]
  exact Nat.div_add_mod' _ _

theorem lastExponent_ofSpelling : (ofSpelling negative s).token.lastExponent = s.exponent := by
  unfold NumberToken.lastExponent Spelling.exponent
  show s.exponent?.getD 0 - ((ofSpelling negative s).fraction.length : Int) = _
  rw [length_fraction_ofSpelling]

theorem toList_pointed : (pointed s.places s.units).toList =
    (ofSpelling negative s).whole ++ fractionChars (ofSpelling negative s).fraction := by
  have length := length_fraction_ofSpelling negative s
  unfold pointed fractionChars
  by_cases none : s.places = 0
  · rw [if_pos none, if_pos (List.eq_nil_of_length_eq_zero (length.trans none)), List.append_nil]
    show _ = Nat.toDigits 10 (s.units / 10 ^ s.places)
    rw [none, pow_zero, Nat.div_one, Numeric.toList_toString]
  · have some : (ofSpelling negative s).fraction ≠ [] := by
      rintro empty
      rw [empty] at length
      exact none length.symm
    have fraction : (ofSpelling negative s).fraction =
        (padded s.places (s.units % 10 ^ s.places)).toList := if_neg none
    rw [if_neg none, if_neg some, fraction, String.toList_append, String.toList_append,
      Numeric.toList_toString, List.append_assoc]
    rfl

theorem chars_ofSpelling :
    (ofSpelling negative s).chars = (signText negative ++ s.text).toList := by
  have magnitude : (ofSpelling negative s).magnitudeChars = s.text.toList := by
    unfold magnitudeChars Spelling.text
    rw [← List.append_assoc, ← toList_pointed]
    show (pointed s.places s.units).toList ++ exponentChars s.exponent? = _
    cases s.exponent? with
    | none => exact List.append_nil _
    | some e =>
        dsimp only
        rw [String.toList_append, String.toList_append, List.append_assoc]
        rfl
  unfold chars signText
  rw [magnitude, String.toList_append]
  cases negative <;> rfl

theorem fractional_ofSpelling (part : 0 < s.places ∨ s.exponent?.isSome) :
    (ofSpelling negative s).token.fractional = true := by
  have length := length_fraction_ofSpelling negative s
  show (decide ((ofSpelling negative s).fraction ≠ []) || s.exponent?.isSome) = true
  rw [Bool.or_eq_true, decide_eq_true_eq]
  refine part.imp_left ?_
  intro some empty
  rw [empty] at length
  exact some.ne length

end Numeral

/-- The literal of a double is a number next to it, and what is read of that number. -/
def Rereads (x y : Float) : Prop :=
  exists (p : BinaryParts) (n : Numeral), Binary64.ofFloat x = .finite p ∧
    (literalText x).toList = n.chars ∧ n.token.draft = float y ∧
      |n.token.value - p.value| ≤ 2 ^ p.exponent / 2

section

variable {m : Nat} {q : Int} (full : m < 2 ^ 53)

include full

theorem near_shortestDecimal : |(shortestDecimal m q).value - m * 2 ^ q| ≤ 2 ^ q / 2 := by
  rcases Nat.eq_zero_or_pos m with rfl | positive
  · have zero : (shortestDecimal 0 q).value = 0 := by
      show ((0 : Nat) : Rat) * 10 ^ (0 : Int) = 0
      rw [Nat.cast_zero, zero_mul]
    rw [zero, Nat.cast_zero, zero_mul, sub_zero, abs_zero]
    positivity
  · exact (finds_shortestDecimal positive full q).near

theorem units_spelling_lt : (shortestDecimal m q).spelling.units < wordSize 64 := by
  rcases (shortestDecimal m q).spelling_cases with ⟨units, _⟩ | ⟨_, _, _, few⟩
  · rw [units]
    rcases Nat.eq_zero_or_pos m with rfl | positive
    · show 0 < wordSize 64
      decide
    · exact (finds_shortestDecimal positive full q).short.trans_lt (by decide)
  · exact few.trans (by decide)

theorem isSome_scale_spelling (low : -1074 ≤ q) (high : q ≤ 971) :
    (scale 4 (Float.ofNat (shortestDecimal m q).spelling.units)
      (shortestDecimal m q).spelling.exponent).isSome := by
  rcases (shortestDecimal m q).spelling_cases with ⟨units, exponent⟩ | ⟨_, exponent, _⟩
  · rw [units, exponent]
    exact isSome_scale_shortest full low high
  · rw [exponent]
    exact isSome_scale_of_neg _ (by decide) (by decide)

end

theorem exists_rereads {x : Float} (finite : isFinite x = true) : exists y, Rereads x y := by
  unfold isFinite at finite
  split at finite
  · rename_i p parts
    obtain ⟨full, low, high⟩ := fits_of_ofBits parts
    let n := Numeral.ofSpelling p.negative (shortestDecimal p.significand p.exponent).spelling
    have digits : n.token.digits = (shortestDecimal p.significand p.exponent).spelling.units :=
      Numeral.digits_ofSpelling _ _
    have lastExponent : n.token.lastExponent =
        (shortestDecimal p.significand p.exponent).spelling.exponent :=
      Numeral.lastExponent_ofSpelling _ _
    have text : (literalText x).toList = n.chars := by
      unfold literalText
      rw [parts]
      dsimp only
      rw [DecimalParts.scientific_eq, Numeral.chars_ofSpelling]
    have near : |n.token.value - p.value| ≤ 2 ^ p.exponent / 2 := by
      have sign : |(if p.negative then (-1 : Rat) else 1)| = 1 := by
        split
        · rw [abs_neg, abs_one]
        · exact abs_one
      unfold NumberToken.value BinaryParts.value
      rw [digits, lastExponent, DecimalParts.value_spelling]
      show |(if p.negative then (-1 : Rat) else 1) * _ - _| ≤ _
      rw [← mul_sub, abs_mul, sign, one_mul]
      exact near_shortestDecimal full
    obtain ⟨y, scaled⟩ := Option.isSome_iff_exists.1 (isSome_scale_spelling full low high)
    have double : n.token.double? = some (if p.negative then -y else y) := by
      rw [double?_of_lt (digits ▸ units_spelling_lt full), digits, lastExponent, scaled]
      rfl
    have held : n.token.draft = float (if p.negative then -y else y) := by
      unfold NumberToken.draft
      rw [Numeral.fractional_ofSpelling _ _ (DecimalParts.fractional_spelling _), double]
      rfl
    exact ⟨_, p, n, parts, text, held, near⟩
  · cases finite

def reread (x : Float) : Float :=
  match (readToken? (literalText x).toList).map fun (token, _) => token.draft with
  | some (float y) => y
  | _ => x

theorem Rereads.reread_eq {x y : Float} (rereads : Rereads x y) : reread x = y := by
  obtain ⟨p, n, _, text, held, _⟩ := rereads
  have token := n.readToken?_chars ends_nil
  rw [List.append_nil] at token
  unfold reread
  rw [text, token, Option.map_some]
  dsimp only
  rw [held]

theorem rereads_reread {x : Float} (finite : isFinite x = true) : Rereads x (reread x) := by
  obtain ⟨y, rereads⟩ := exists_rereads finite
  rw [rereads.reread_eq]
  exact rereads

end Draft
end Json
end RobotConsole
