import RobotConsole.Proofs.Json.Grammar

/-!
# Naturals in a text

A text is held as a natural exactly if it is made of digits alone, with blanks around them, and the
number has up to 64 bits. The negative zero is none of them: it is held as a float.
-/

namespace RobotConsole
namespace Json
namespace Draft

open Numeric (IsDigits ofDigits spanDigits)

/-! ## Whole numbers in a text -/

section

variable {cs rest : List Char} {t : NumberToken}

/-- The digits that a whole number may be written with: no zero in front of others. -/
structure IsWhole (digits : List Char) : Prop where
  decimal : IsDigits digits
  noZeroAhead : digits.head? = some '0' -> digits = ['0']

theorem readFraction?_eq_some {digits : List Char} {pointed : Bool}
    (read : readFraction? cs = some (digits, pointed, rest)) (none : pointed = false) :
    rest = cs := by
  unfold readFraction? at read
  split at read
  · dsimp only at read
    split at read
    · cases read
    · cases read
      cases none
  · cases read
    rfl

theorem readExponent?_eq_some {exponent : Int} {given : Bool}
    (read : readExponent? cs = some (exponent, given, rest)) (none : given = false) :
    rest = cs := by
  unfold readExponent? at read
  split at read
  · split at read
    · dsimp only at read
      split at read
      · cases read
      · cases read
        cases none
    · cases read
      rfl
  · cases read
    rfl

theorem of_readMagnitude? {negative : Bool} (read : readMagnitude? negative cs = some (t, rest)) :
    t.negative = negative ∧ IsWhole t.whole ∧ (t.fractional = false -> cs = t.whole ++ rest) := by
  unfold readMagnitude? at read
  obtain ⟨⟨⟩, allowed, read⟩ := Option.bind_eq_some_iff.1 read
  obtain ⟨⟨fraction, pointed, behind⟩, first, read⟩ := Option.bind_eq_some_iff.1 read
  obtain ⟨⟨exponent, given, behind'⟩, second, read⟩ := Option.bind_eq_some_iff.1 read
  cases read
  obtain ⟨nonempty, zero⟩ := (Option.guard_eq_some' _).1 allowed
  refine ⟨rfl, ⟨⟨nonempty, fun _ mem => Numeric.isDigit_of_mem_spanDigits mem⟩, zero⟩, ?_⟩
  intro plain
  obtain ⟨noPoint, noExponent⟩ := Bool.or_eq_false_iff.1 plain
  have same := readFraction?_eq_some first noPoint
  have same' := readExponent?_eq_some second noExponent
  subst same same'
  exact (Numeric.spanDigits_append cs).symm

theorem of_readToken? (read : readToken? cs = some (t, rest)) (positive : t.negative = false) :
    IsWhole t.whole ∧ (t.fractional = false -> cs = t.whole ++ rest) := by
  by_cases minus : cs.head? = some '-'
  · obtain ⟨cs, rfl⟩ := List.head?_eq_some_iff.1 minus
    rw [readToken?_minus] at read
    rw [(of_readMagnitude? read).1] at positive
    cases positive
  · rw [readToken?_of_head_ne minus] at read
    exact (of_readMagnitude? read).2

theorem draft_eq_integer {n : Int} (held : t.draft = integer n) (nonneg : 0 ≤ n) :
    t.fractional = false ∧ t.negative = false ∧ n = ofDigits t.whole ∧
      ofDigits t.whole < Numeric.wordSize 64 := by
  have float : (t.double?.map float).getD unreadable ≠ integer n := by
    cases t.double? <;> nofun
  unfold NumberToken.draft at held
  dsimp only at held
  split at held
  · exact absurd held float
  · rename_i whole
    split at held
    · split at held
      · cases held
        omega
      · exact absurd held float
    · rename_i positive
      split at held
      · rename_i small
        cases held
        exact ⟨eq_false_of_ne_true whole, eq_false_of_ne_true positive, rfl, small⟩
      · exact absurd held float

theorem draft_ne_string {s : String} (t : NumberToken) : t.draft ≠ string s := by
  have float : (t.double?.map float).getD unreadable ≠ string s := by
    cases t.double? <;> nofun
  unfold NumberToken.draft
  dsimp only
  split
  · exact float
  · split
    · split
      · nofun
      · exact float
    · split
      · nofun
      · exact float

theorem within_eq {room : Nat} {value other : Draft} (held : within room value = other) :
    value = other ∨ other = broken ∨ other = unreadable := by
  unfold within at held
  split at held <;> split at held
  · exact .inr (.inl held.symm)
  · exact .inl held
  · exact .inr (.inr held.symm)
  · exact .inl held

theorem integer_of_readValue {fuel room : Nat} {n : Int}
    (read : readValue fuel room cs = (integer n, rest)) :
    exists t, readToken? (skipSpace cs) = some (t, rest) ∧ t.draft = integer n := by
  cases fuel with
  | zero =>
      rw [readValue] at read
      cases read
  | succ fuel =>
      rw [readValue] at read
      split at read
      · cases read
      · cases read
      · cases read
      · split at read <;> cases read
      · split at read
        · rcases within_eq (Prod.mk.inj read).1 with same | same | same <;> cases same
        · rcases within_eq (Prod.mk.inj read).1 with same | same | same <;> cases same
      · split at read
        · rcases within_eq (Prod.mk.inj read).1 with same | same | same <;> cases same
        · rcases within_eq (Prod.mk.inj read).1 with same | same | same <;> cases same
      · split at read
        · cases read
        · rename_i t behind token
          obtain ⟨held, rfl⟩ := Prod.mk.inj read
          exact ⟨t, token, held⟩

theorem quote_of_readValue {fuel room : Nat} {s : String}
    (read : readValue fuel room cs = (string s, rest)) : (skipSpace cs).head? = some '"' := by
  cases fuel with
  | zero =>
      rw [readValue] at read
      cases read
  | succ fuel =>
      rw [readValue] at read
      split at read
      · cases read
      · cases read
      · cases read
      · rename_i quoted
        rw [quoted]
        rfl
      · split at read
        · rcases within_eq (Prod.mk.inj read).1 with same | same | same <;> cases same
        · rcases within_eq (Prod.mk.inj read).1 with same | same | same <;> cases same
      · split at read
        · rcases within_eq (Prod.mk.inj read).1 with same | same | same <;> cases same
        · rcases within_eq (Prod.mk.inj read).1 with same | same | same <;> cases same
      · split at read
        · cases read
        · exact absurd (Prod.mk.inj read).1 (draft_ne_string _)

end

/-! ## Whole numbers as they are written -/

namespace Numeral

theorem isDigit_of_mem_nil : forall c, c ∈ ([] : List Char) -> Numeric.isDigit c = true :=
  nofun

def ofWhole {digits : List Char} (whole : IsWhole digits) : Numeral where
  negative := false
  whole := digits
  wholeDigits := whole.decimal.digits
  noZeroAhead := ⟨whole.decimal.nonempty, whole.noZeroAhead⟩
  fractionDigits := isDigit_of_mem_nil

theorem chars_ofWhole {digits : List Char} (whole : IsWhole digits) :
    (ofWhole whole).chars = digits :=
  List.append_nil digits

theorem draft_ofWhole {digits : List Char} (whole : IsWhole digits)
    (small : ofDigits digits < Numeric.wordSize 64) :
    (ofWhole whole).token.draft = integer (ofDigits digits) :=
  if_pos small

end Numeral

theorem ends_of_blank {cs : List Char} (blank : Blank cs) : Ends cs :=
  fun c first => .inl (blank c (List.mem_of_mem_head? first))

theorem skipSpace_of_blank {cs : List Char} (blank : Blank cs) : skipSpace cs = [] := by
  have whole := skipSpace_append blank []
  rw [List.append_nil] at whole
  exact whole

theorem blank_of_skipSpace {cs : List Char} (none : skipSpace cs = []) : Blank cs := by
  intro c mem
  unfold skipSpace at none
  exact List.dropWhile_eq_nil_iff.1 none c mem

/-- Of all texts, only that of a natural of up to 64 bits, with blanks around it, is held as one. -/
theorem read_natural_iff {cs : List Char} {n : Nat} :
    ((read cs).1 = integer n ∧ skipSpace (read cs).2 = []) ↔
      exists digits, IsWhole digits ∧ Around digits cs ∧ ofDigits digits = n ∧
        ofDigits digits < Numeric.wordSize 64 := by
  constructor
  · rintro ⟨held, finished⟩
    have read : read cs = (integer n, (read cs).2) := Prod.ext held rfl
    obtain ⟨t, token, draft⟩ := integer_of_readValue read
    obtain ⟨plain, positive, value, small⟩ := draft_eq_integer draft (Int.natCast_nonneg n)
    obtain ⟨whole, digits⟩ := of_readToken? token positive
    refine ⟨t.whole, whole, ?_, (Int.natCast_inj.1 value).symm, small⟩
    have text : cs = cs.takeWhile isSpace ++ t.whole ++ (Draft.read cs).2 := by
      rw [List.append_assoc, ← digits plain]
      exact List.takeWhile_append_dropWhile.symm
    have ahead : Blank (cs.takeWhile isSpace) :=
      fun c mem => List.all_eq_true.1 List.all_takeWhile c mem
    have around : Around t.whole (cs.takeWhile isSpace ++ t.whole ++ (Draft.read cs).2) :=
      .intro ahead (blank_of_skipSpace finished)
    rw [← text] at around
    exact around
  · rintro ⟨digits, whole, @⟨before, after, ahead, behind⟩, rfl, small⟩
    have front : skipSpace (before ++ digits ++ after) = skipSpace (digits ++ after) := by
      rw [List.append_assoc, skipSpace_append ahead]
    have held := readValue_numeral (.ofWhole whole)
      (2 * (before ++ digits ++ after).length + 1) depthLimit (ends_of_blank behind)
    rw [Numeral.chars_ofWhole, Numeral.draft_ofWhole whole small] at held
    unfold read
    rw [readValue_congr front, held]
    exact ⟨rfl, skipSpace_of_blank behind⟩

end Draft
end Json
end RobotConsole
