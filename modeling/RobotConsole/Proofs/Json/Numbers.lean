import Mathlib.Data.Option.Basic
import RobotConsole.Json.Draft
import RobotConsole.Proofs.Numeric.Decimal

/-!
# Numbers in JSON

A number that is put together of its parts is read as these parts, up to where it ends. A whole
number of up to 64 bits is held as it is.
-/

namespace RobotConsole
namespace Json
namespace Draft

open Numeric (isDigit spanDigits spanSign ofDigits NoDigitAhead)

/-! ## What follows -/

/-- What follows a value within a text. -/
def Ends (rest : List Char) : Prop :=
  forall c, rest.head? = some c -> isSpace c = true ∨ c = ',' ∨ c = ']' ∨ c = '}'

theorem ends_nil : Ends [] :=
  nofun

theorem ends_cons {c : Char} (ends : isSpace c = true ∨ c = ',' ∨ c = ']' ∨ c = '}')
    (rest : List Char) : Ends (c :: rest) := by
  intro d same
  cases same
  exact ends

theorem isSpace_of_digit {c : Char} (digit : isDigit c = true) : isSpace c = false := by
  unfold isSpace
  have visible (d : Char) (other : isDigit d = false) : decide (c = d) = false := by
    apply decide_eq_false
    rintro rfl
    rw [digit] at other
    cases other
  rw [visible ' ' rfl, visible '\n' rfl, visible '\t' rfl, visible '\r' rfl]
  rfl

section

variable {rest : List Char} (ends : Ends rest)

include ends

theorem Ends.noDigitAhead : NoDigitAhead rest := by
  intro c first
  rcases ends c first with space | rfl | rfl | rfl
  · rw [← Bool.not_eq_true]
    intro digit
    rw [isSpace_of_digit digit] at space
    cases space
  · rfl
  · rfl
  · rfl

theorem Ends.head_ne {c : Char} (inside : isSpace c = false)
    (inside' : c ≠ ',' ∧ c ≠ ']' ∧ c ≠ '}') : rest.head? ≠ some c := by
  intro first
  rcases ends c first with space | same | same | same
  · rw [inside] at space
    cases space
  · exact inside'.1 same
  · exact inside'.2.1 same
  · exact inside'.2.2 same

theorem readFraction?_of_ends : readFraction? rest = some ([], false, rest) := by
  unfold readFraction?
  split
  · exact absurd rfl (ends.head_ne (c := '.') rfl (by decide))
  · rfl

theorem readExponent?_of_ends : readExponent? rest = some (0, false, rest) := by
  unfold readExponent?
  split
  · rename_i c rest
    have other : ¬ (c = 'e' ∨ c = 'E') := by
      rintro (rfl | rfl)
      · exact absurd rfl (ends.head_ne (c := 'e') rfl (by decide))
      · exact absurd rfl (ends.head_ne (c := 'E') rfl (by decide))
    rw [if_neg other]
  · rfl

end

/-! ## Numerals -/

/-- A number in its parts. -/
structure Numeral where
  negative : Bool
  whole : List Char
  /-- The digits behind the point, which is there if they are. -/
  fraction : List Char := []
  exponent? : Option Int := none
  wholeDigits : forall c, c ∈ whole -> isDigit c = true
  noZeroAhead : whole ≠ [] ∧ (whole.head? = some '0' -> whole = ['0'])
  fractionDigits : forall c, c ∈ fraction -> isDigit c = true

def exponentChars : Option Int -> List Char
  | none => []
  | some e => 'e' :: (toString e).toList

def fractionChars (fraction : List Char) : List Char :=
  if fraction = [] then [] else '.' :: fraction

namespace Numeral

def magnitudeChars (n : Numeral) : List Char :=
  n.whole ++ (fractionChars n.fraction ++ exponentChars n.exponent?)

def chars (n : Numeral) : List Char :=
  if n.negative then '-' :: n.magnitudeChars else n.magnitudeChars

def token (n : Numeral) : NumberToken where
  negative := n.negative
  whole := n.whole
  fraction := n.fraction
  exponent := n.exponent?.getD 0
  fractional := n.fraction ≠ [] || n.exponent?.isSome

theorem exists_chars_eq (n : Numeral) :
    exists c cs, n.chars = c :: cs ∧ (c = '-' ∨ isDigit c = true) := by
  unfold chars
  split
  · exact ⟨'-', _, rfl, .inl rfl⟩
  · obtain ⟨c, cs, digits⟩ := List.exists_cons_of_ne_nil n.noZeroAhead.1
    have digit : isDigit c = true := n.wholeDigits c (digits ▸ List.mem_cons_self)
    unfold magnitudeChars
    rw [digits]
    exact ⟨c, _, rfl, .inr digit⟩

end Numeral

theorem toList_toString (n : Int) :
    (toString n).toList = (if n < 0 then ['-'] else []) ++ Nat.toDigits 10 n.natAbs := by
  cases n with
  | ofNat n =>
      rw [if_neg (show ¬ Int.ofNat n < 0 from Int.not_lt.2 (Int.natCast_nonneg n))]
      exact Nat.toList_repr
  | negSucc n =>
      rw [if_pos (Int.negSucc_lt_zero n)]
      show ("-" ++ (n + 1).repr).toList = _
      rw [String.toList_append, Nat.toList_repr]
      rfl

/-! ## Reading -/

section

variable {rest : List Char}

theorem spanSign_of_digits {cs : List Char} (some : cs ≠ [])
    (digits : forall c, c ∈ cs -> isDigit c = true) (rest : List Char) :
    spanSign (cs ++ rest) = (false, cs ++ rest) := by
  obtain ⟨c, cs, rfl⟩ := List.exists_cons_of_ne_nil some
  have digit : isDigit c = true := digits c List.mem_cons_self
  unfold spanSign
  split
  · rename_i same
    cases same
    cases digit
  · rename_i same
    cases same
    cases digit
  · rfl

theorem spanSign_toString (e : Int) (rest : List Char) :
    spanSign ((toString e).toList ++ rest) =
      (decide (e < 0), Nat.toDigits 10 e.natAbs ++ rest) := by
  rw [toList_toString]
  by_cases negative : e < 0
  · rw [if_pos negative, decide_eq_true negative]
    rfl
  · rw [if_neg negative, decide_eq_false negative, List.nil_append]
    exact spanSign_of_digits Nat.toDigits_ne_nil
      (fun c mem => Numeric.isDigit_of_mem_toDigits mem) rest

theorem noDigitAhead_exponentChars (exponent? : Option Int) (ends : Ends rest) :
    NoDigitAhead (exponentChars exponent? ++ rest) := by
  cases exponent? with
  | none => exact ends.noDigitAhead
  | some e =>
      intro c first
      cases first
      rfl

theorem noDigitAhead_fractionChars (fraction : List Char) (stop : NoDigitAhead rest) :
    NoDigitAhead (fractionChars fraction ++ rest) := by
  unfold fractionChars
  split
  · exact stop
  · intro c first
    cases first
    rfl

theorem readExponent?_chars (exponent? : Option Int) (ends : Ends rest) :
    readExponent? (exponentChars exponent? ++ rest) =
      some (exponent?.getD 0, exponent?.isSome, rest) := by
  cases exponent? with
  | none => exact readExponent?_of_ends ends
  | some e =>
      have digits := Numeric.spanDigits_append_of_digits
        (fun c (mem : c ∈ Nat.toDigits 10 e.natAbs) => Numeric.isDigit_of_mem_toDigits mem)
        ends.noDigitAhead
      have size : (if decide (e < 0) = true then -(e.natAbs : Int) else e.natAbs) = e := by
        simp only [decide_eq_true_eq]
        omega
      unfold readExponent? exponentChars
      dsimp only [List.cons_append]
      rw [if_pos (.inl rfl), spanSign_toString]
      dsimp only
      rw [digits]
      dsimp only
      rw [if_neg Nat.toDigits_ne_nil, Numeric.ofDigits_toDigits, size]
      rfl

theorem readFraction?_chars {fraction : List Char}
    (digits : forall c, c ∈ fraction -> isDigit c = true) (exponent? : Option Int)
    (ends : Ends rest) :
    readFraction? (fractionChars fraction ++ (exponentChars exponent? ++ rest)) =
      some (fraction, decide (fraction ≠ []), exponentChars exponent? ++ rest) := by
  have stop := noDigitAhead_exponentChars exponent? ends
  unfold fractionChars
  by_cases none : fraction = []
  · rw [if_pos none, none]
    cases exponent? with
    | none => exact readFraction?_of_ends ends
    | some e => rfl
  · rw [if_neg none, decide_eq_true none]
    show (if (spanDigits (fraction ++ (exponentChars exponent? ++ rest))).1 = [] then Option.none
      else some ((spanDigits (fraction ++ (exponentChars exponent? ++ rest))).1, true,
        (spanDigits (fraction ++ (exponentChars exponent? ++ rest))).2)) = _
    rw [Numeric.spanDigits_append_of_digits digits stop, if_neg none]

def readMagnitude? (negative : Bool) (cs : List Char) : Option (NumberToken × List Char) := do
  let (whole, rest) := spanDigits cs
  guard (whole ≠ [] ∧ (whole.head? = some '0' -> whole = ['0']))
  let (fraction, hasPoint, rest) ← readFraction? rest
  let (exponent, hasExponent, rest) ← readExponent? rest
  some (⟨negative, whole, fraction, exponent, hasPoint || hasExponent⟩, rest)

theorem readToken?_minus (cs : List Char) : readToken? ('-' :: cs) = readMagnitude? true cs :=
  rfl

theorem readToken?_of_head_ne {cs : List Char} (other : cs.head? ≠ some '-') :
    readToken? cs = readMagnitude? false cs := by
  unfold readToken? readMagnitude?
  split
  · rename_i rest
    split at rest
    · exact absurd rfl other
    · cases rest
      rfl

namespace Numeral

variable (n : Numeral)

theorem readMagnitude?_chars (ends : Ends rest) :
    readMagnitude? n.negative (n.magnitudeChars ++ rest) = some (n.token, rest) := by
  have stop := noDigitAhead_fractionChars n.fraction
    (noDigitAhead_exponentChars n.exponent? ends)
  have digits := Numeric.spanDigits_append_of_digits n.wholeDigits stop
  have allowed : (guard (n.whole ≠ [] ∧ (n.whole.head? = some '0' -> n.whole = ['0'])) :
      Option Unit) = some () :=
    if_pos n.noZeroAhead
  unfold readMagnitude? magnitudeChars
  rw [List.append_assoc, List.append_assoc, digits]
  show Option.bind (guard (n.whole ≠ [] ∧ (n.whole.head? = some '0' -> n.whole = ['0']))) _ = _
  rw [allowed, readFraction?_chars n.fractionDigits _ ends]
  dsimp only [bind, Option.bind, pure]
  rw [readExponent?_chars _ ends]
  rfl

theorem readToken?_chars (ends : Ends rest) :
    readToken? (n.chars ++ rest) = some (n.token, rest) := by
  have magnitude := n.readMagnitude?_chars ends
  unfold chars
  by_cases negative : n.negative
  · rw [if_pos negative, List.cons_append, readToken?_minus]
    rw [negative] at magnitude
    exact magnitude
  · rw [if_neg negative]
    obtain ⟨c, cs, digits⟩ := List.exists_cons_of_ne_nil n.noZeroAhead.1
    have digit : isDigit c = true := n.wholeDigits c (digits ▸ List.mem_cons_self)
    have plain : (n.magnitudeChars ++ rest).head? ≠ some '-' := by
      unfold magnitudeChars
      rw [digits]
      intro minus
      cases minus
      cases digit
    rw [eq_false_of_ne_true negative] at magnitude
    rw [readToken?_of_head_ne plain, magnitude]

end Numeral

end

/-! ## Whole numbers -/

namespace Numeral

def ofInt (n : Int) : Numeral where
  negative := n < 0
  whole := Nat.toDigits 10 n.natAbs
  wholeDigits _ mem := Numeric.isDigit_of_mem_toDigits mem
  noZeroAhead := ⟨Nat.toDigits_ne_nil, Numeric.head_toDigits n.natAbs⟩
  fractionDigits _ mem := absurd mem List.not_mem_nil

theorem chars_ofInt (n : Int) : (ofInt n).chars = (toString n).toList := by
  have digits : (ofInt n).magnitudeChars = Nat.toDigits 10 n.natAbs := List.append_nil _
  show (if decide (n < 0) then '-' :: (ofInt n).magnitudeChars else _) = _
  rw [digits, toList_toString]
  by_cases negative : n < 0
  · rw [if_pos negative, if_pos (decide_eq_true negative)]
    rfl
  · rw [if_neg negative, if_neg (by simpa using negative)]
    rfl

theorem draft_ofInt {n : Int} (low : -(Numeric.wordSize 63 : Int) ≤ n)
    (high : n < Numeric.wordSize 64) : (ofInt n).token.draft = integer n := by
  show (NumberToken.mk (n < 0) (Nat.toDigits 10 n.natAbs) [] 0 false).draft = integer n
  unfold NumberToken.draft
  dsimp only
  rw [Numeric.ofDigits_toDigits, if_neg (by decide)]
  by_cases negative : n < 0
  · rw [if_pos (by simpa using negative), if_pos (by omega)]
    congr 1
    omega
  · rw [if_neg (by simpa using negative), if_pos (by omega)]
    congr 1
    omega

end Numeral

end Draft
end Json
end RobotConsole
