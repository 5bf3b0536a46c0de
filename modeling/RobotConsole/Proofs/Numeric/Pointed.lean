import RobotConsole.Proofs.Numeric.Decimal
import RobotConsole.Proofs.Numeric.Shortest

/-!
# Digits with a point and an exponent

The text of a decimal as a number literal is a whole number of units of some power of ten: the
digits with a point among them, and an exponent if the point is not near enough.
-/

namespace RobotConsole
namespace Numeric

/-! ## Digits -/

theorem foldl_digits (n : Nat) (cs : List Char) :
    cs.foldl (fun n c => 10 * n + digitValue c) n = n * 10 ^ cs.length + ofDigits cs := by
  unfold ofDigits
  induction cs generalizing n with
  | nil => exact (Nat.mul_one n).symm
  | cons c cs ih =>
      rw [List.foldl_cons, List.foldl_cons, ih, ih (10 * 0 + digitValue c), List.length_cons,
        pow_succ]
      ring

theorem ofDigits_append (cs ds : List Char) :
    ofDigits (cs ++ ds) = ofDigits cs * 10 ^ ds.length + ofDigits ds := by
  rw [← foldl_digits]
  exact List.foldl_append

theorem ofDigits_zeros (n : Nat) : ofDigits (List.replicate n '0') = 0 := by
  induction n with
  | zero => rfl
  | succ n ih =>
      rw [List.replicate_succ, ← List.singleton_append, ofDigits_append, ih]
      exact Nat.zero_mul _

theorem toList_padded (width n : Nat) :
    (padded width n).toList =
      List.replicate (width - (Nat.toDigits 10 n).length) '0' ++ Nat.toDigits 10 n := by
  unfold padded
  dsimp only
  rw [String.toList_append, String.toList_ofList, ← toList_toString, String.length_toList]

theorem length_padded {width n : Nat} (some : 0 < width) (fits : n < 10 ^ width) :
    (padded width n).toList.length = width := by
  have short := (Nat.length_toDigits_le_iff (by decide) some).2 fits
  rw [toList_padded, List.length_append, List.length_replicate]
  omega

theorem isDigit_of_mem_padded {width n : Nat} {c : Char} (mem : c ∈ (padded width n).toList) :
    isDigit c = true := by
  rw [toList_padded, List.mem_append] at mem
  rcases mem with zero | digit
  · rw [List.eq_of_mem_replicate zero]
    rfl
  · exact isDigit_of_mem_toDigits digit

theorem ofDigits_padded (width n : Nat) : ofDigits (padded width n).toList = n := by
  rw [toList_padded, ofDigits_append, ofDigits_zeros, ofDigits_toDigits, Nat.zero_mul, Nat.zero_add]

theorem toDigits_mul_pow {n : Nat} (positive : 0 < n) (k : Nat) :
    Nat.toDigits 10 (n * 10 ^ k) = Nat.toDigits 10 n ++ List.replicate k '0' := by
  induction k with
  | zero => rw [pow_zero, Nat.mul_one, List.replicate_zero, List.append_nil]
  | succ k ih =>
      have some : 0 < n * 10 ^ k := Nat.mul_pos positive (Nat.pow_pos (by decide))
      rw [pow_succ, ← Nat.mul_assoc, Nat.toDigits_of_base_le (by decide) (by omega),
        Nat.mul_div_cancel _ (by decide), Nat.mul_mod_left, ih, List.replicate_succ',
        List.append_assoc]
      rfl

/-! ## Number literals -/

/-- How a decimal is written: units of the last place behind the point, and an exponent. -/
structure Spelling where
  places : Nat
  units : Nat
  exponent? : Option Int := none

def Spelling.text (s : Spelling) : String :=
  match s.exponent? with
  | none => pointed s.places s.units
  | some e => pointed s.places s.units ++ "e" ++ toString e

theorem pointed_whole (n : Nat) : pointed 1 (n * 10) = toString n ++ ".0" := by
  unfold pointed
  rw [if_neg Nat.one_ne_zero]
  show toString (n * 10 / 10) ++ "." ++ padded 1 (n * 10 % 10) = _
  rw [Nat.mul_div_cancel _ (by decide), Nat.mul_mod_left, String.append_assoc]
  rfl

def Spelling.exponent (s : Spelling) : Int :=
  s.exponent?.getD 0 - s.places

namespace DecimalParts

def spelling (d : DecimalParts) : Spelling :=
  let length := (Nat.toDigits 10 d.digits).length
  let point := length + d.exponent
  if d.digits = 0 ∨ 0 ≤ d.exponent ∧ point ≤ 16 then
    { places := 1, units := d.digits * 10 ^ (d.exponent.toNat + 1) }
  else if -5 < point ∧ point ≤ 16 then { places := (-d.exponent).toNat, units := d.digits }
  else { places := length - 1, units := d.digits, exponent? := some (point - 1) }

theorem positional_of_nonneg {d : DecimalParts} (some : d.digits ≠ 0) (whole : 0 ≤ d.exponent) :
    d.positional = toString (d.digits * 10 ^ d.exponent.toNat) := by
  unfold positional
  rw [if_neg some, if_pos whole, ← String.toList_inj, String.toList_append, toList_toString,
    toList_toString, toDigits_mul_pow (Nat.pos_of_ne_zero some), zeros, String.toList_ofList]

theorem positional_of_neg {d : DecimalParts} (some : d.digits ≠ 0) (part : ¬ 0 ≤ d.exponent) :
    d.positional = pointed (-d.exponent).toNat d.digits := by
  unfold positional
  rw [if_neg some, if_neg part]

variable (d : DecimalParts)

theorem scientific_eq : d.scientific = d.spelling.text := by
  have length : (toString d.digits).length = (Nat.toDigits 10 d.digits).length := by
    rw [← String.length_toList, toList_toString]
  unfold scientific spelling
  dsimp only
  rw [length]
  by_cases zero : d.digits = 0
  · rw [if_pos zero, if_pos (.inl zero), zero, Nat.zero_mul]
    exact (pointed_whole 0).symm
  · rw [if_neg zero]
    by_cases whole : 0 ≤ d.exponent ∧ (Nat.toDigits 10 d.digits).length + d.exponent ≤ 16
    · rw [if_pos whole, if_pos (.inr whole), positional_of_nonneg zero whole.1, ← pointed_whole,
        Nat.mul_assoc, ← pow_succ]
      rfl
    · rw [if_neg whole, if_neg (not_or.2 ⟨zero, whole⟩)]
      split
      · rename_i near
        exact positional_of_neg zero fun nonneg => whole ⟨nonneg, near.2⟩
      · have mantissa : (if (Nat.toDigits 10 d.digits).length = 1 then toString d.digits
            else pointed ((Nat.toDigits 10 d.digits).length - 1) d.digits) =
            pointed ((Nat.toDigits 10 d.digits).length - 1) d.digits := by
          split
          · rename_i single
            rw [single]
            rfl
          · rfl
        rw [mantissa]
        rfl

theorem fractional_spelling : 0 < d.spelling.places ∨ d.spelling.exponent?.isSome := by
  unfold spelling
  dsimp only
  split
  · exact .inl Nat.one_pos
  · rename_i part
    split
    · rename_i near
      refine .inl ?_
      show 0 < (-d.exponent).toNat
      omega
    · exact .inr rfl

theorem spelling_cases :
    d.spelling.units = d.digits ∧ d.spelling.exponent = d.exponent ∨
      (d.digits = 0 ∨ 0 ≤ d.exponent) ∧ d.spelling.exponent = -1 ∧
        d.spelling.units = d.digits * 10 ^ (d.exponent.toNat + 1) ∧
        d.spelling.units < 10 ^ 17 := by
  have fits : d.digits < 10 ^ (Nat.toDigits 10 d.digits).length :=
    (Nat.length_toDigits_le_iff (by decide) Nat.length_toDigits_pos).1 le_rfl
  have some : 0 < (Nat.toDigits 10 d.digits).length := Nat.length_toDigits_pos
  unfold spelling
  dsimp only
  generalize (Nat.toDigits 10 d.digits).length = length at fits some ⊢
  split
  · rename_i whole
    refine .inr ⟨whole.imp_right And.left, rfl, rfl, ?_⟩
    show d.digits * 10 ^ (d.exponent.toNat + 1) < 10 ^ 17
    rcases whole with zero | ⟨_, short⟩
    · rw [zero, Nat.zero_mul]
      decide
    · calc d.digits * 10 ^ (d.exponent.toNat + 1)
          < 10 ^ length * 10 ^ (d.exponent.toNat + 1) :=
            Nat.mul_lt_mul_of_pos_right fits (Nat.pow_pos (by decide))
        _ = 10 ^ (length + (d.exponent.toNat + 1)) := (Nat.pow_add _ _ _).symm
        _ ≤ 10 ^ 17 := Nat.pow_le_pow_right (by decide) (by omega)
  · rename_i part
    split
    · refine .inl ⟨rfl, ?_⟩
      show (0 : Int) - (-d.exponent).toNat = d.exponent
      omega
    · refine .inl ⟨rfl, ?_⟩
      show (length : Int) + d.exponent - 1 - (length - 1 : Nat) = d.exponent
      omega

theorem value_spelling : (mk d.spelling.units d.spelling.exponent).value = d.value := by
  unfold value
  rcases d.spelling_cases with ⟨units, exponent⟩ | ⟨whole, exponent, units, _⟩
  · rw [units, exponent]
  · rw [units, exponent]
    rcases whole with zero | nonneg
    · rw [zero, Nat.zero_mul, Nat.cast_zero, zero_mul, zero_mul]
    · obtain ⟨k, same⟩ := Int.eq_ofNat_of_zero_le nonneg
      rw [same, Int.toNat_natCast, zpow_natCast, zpow_neg_one]
      push_cast
      field_simp
      ring

end DecimalParts

end Numeric
end RobotConsole
