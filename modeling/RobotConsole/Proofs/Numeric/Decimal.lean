import RobotConsole.Numeric.WholeNumber

/-!
# Decimal digits of a number

The digits in which a natural is written are read back as that natural, by each of the readers
of digits.
-/

namespace RobotConsole
namespace Numeric

theorem isDigit_eq (c : Char) : isDigit c = c.isDigit := by
  unfold isDigit Char.isDigit
  rfl

theorem isDigit_of_mem_toDigits {n : Nat} {c : Char} (mem : c ∈ Nat.toDigits 10 n) :
    isDigit c = true := by
  rw [isDigit_eq]
  exact Nat.isDigit_of_mem_toDigits (by decide) (by decide) mem

theorem toList_toString (n : Nat) : (toString n).toList = Nat.toDigits 10 n :=
  Nat.toList_repr

theorem ofDigits_toDigits (n : Nat) : ofDigits (Nat.toDigits 10 n) = n := by
  have read := Nat.ofDigitChars_ten_toDigits (n := n)
  rw [Nat.ofDigitChars_eq_foldl] at read
  exact read

theorem head_toDigits (n : Nat) (zero : (Nat.toDigits 10 n).head? = some '0') :
    Nat.toDigits 10 n = ['0'] := by
  induction n using Nat.strongRecOn with
  | ind n ih =>
      by_cases small : n < 10
      · rw [Nat.toDigits_of_lt_base small] at zero ⊢
        exact congrArg (fun c => [c]) (Option.some.inj zero)
      · have large : 10 ≤ n := Nat.le_of_not_lt small
        obtain ⟨c, cs, digits⟩ :=
          List.exists_cons_of_ne_nil (Nat.toDigits_ne_nil (n := n / 10) (b := 10))
        rw [Nat.toDigits_of_base_le (by decide) large, digits] at zero
        have front := ih (n / 10) (by omega) (digits ▸ zero)
        have none : n / 10 = 0 := by
          rw [← ofDigits_toDigits (n / 10), front]
          rfl
        omega

def NoDigitAhead (rest : List Char) : Prop :=
  forall c, rest.head? = some c -> isDigit c = false

theorem spanDigits_append_of_digits {digits rest : List Char}
    (all : forall c, c ∈ digits -> isDigit c = true) (stop : NoDigitAhead rest) :
    spanDigits (digits ++ rest) = (digits, rest) := by
  unfold spanDigits
  have ends : rest.takeWhile isDigit = [] ∧ rest.dropWhile isDigit = rest := by
    cases rest with
    | nil => exact ⟨rfl, rfl⟩
    | cons c rest => simp [stop c rfl]
  rw [List.takeWhile_append_of_pos all, List.dropWhile_append_of_pos all, ends.1, ends.2,
    List.append_nil]

section

variable {limit : Nat}

theorem le_foldl_digits (n : Nat) (cs : List Char) :
    n ≤ cs.foldl (fun n c => 10 * n + digitValue c) n := by
  induction cs generalizing n with
  | nil => exact Nat.le_refl n
  | cons c cs ih =>
      have step := ih (10 * n + digitValue c)
      rw [List.foldl_cons]
      omega

theorem extendBelow_digits {n : Nat} {cs : List Char}
    (all : forall c, c ∈ cs -> isDigit c = true)
    (small : cs.foldl (fun n c => 10 * n + digitValue c) n < limit) :
    extendBelow limit n cs = .ok (cs.foldl (fun n c => 10 * n + digitValue c) n) := by
  induction cs generalizing n with
  | nil => rfl
  | cons c cs ih =>
      have digit : digit? c = some (digitValue c) := if_pos (all c List.mem_cons_self)
      have below : 10 * n + digitValue c < limit :=
        Nat.lt_of_le_of_lt (le_foldl_digits _ cs) small
      unfold extendBelow
      rw [digit]
      dsimp only
      rw [if_pos below]
      exact ih (fun c mem => all c (List.mem_cons_of_mem _ mem)) small

theorem readBelow_toDigits {n : Nat} (small : n < limit) :
    readBelow limit (Nat.toDigits 10 n) = .ok n := by
  have all (c : Char) (mem : c ∈ Nat.toDigits 10 n) : isDigit c = true :=
    isDigit_of_mem_toDigits mem
  have value := ofDigits_toDigits n
  unfold ofDigits at value
  have read := extendBelow_digits (n := 0) all (value.symm ▸ small)
  rw [value] at read
  unfold readBelow
  split
  · rename_i empty
    exact absurd empty Nat.toDigits_ne_nil
  · rename_i plus
    exact absurd (all '+' (plus ▸ List.mem_cons_self)) (by decide)
  · rename_i plus
    exact absurd (all '+' (plus ▸ List.mem_cons_self)) (by decide)
  · exact read

theorem extendBelow_eq_ok_iff {n m : Nat} {cs : List Char} (small : n < limit) :
    extendBelow limit n cs = .ok m ↔ (forall c, c ∈ cs -> isDigit c = true) ∧
      cs.foldl (fun n c => 10 * n + digitValue c) n = m ∧ m < limit := by
  constructor
  · intro read
    induction cs generalizing n with
    | nil =>
        cases read
        exact ⟨nofun, rfl, small⟩
    | cons c cs ih =>
        unfold extendBelow digit? at read
        by_cases digit : isDigit c = true
        · rw [if_pos digit] at read
          dsimp only at read
          split at read
          · rename_i below
            obtain ⟨digits, value, least⟩ := ih below read
            exact ⟨List.forall_mem_cons.2 ⟨digit, digits⟩, value, least⟩
          · cases read
        · rw [if_neg digit] at read
          cases read
  · rintro ⟨digits, rfl, least⟩
    exact extendBelow_digits digits least

structure IsDigits (cs : List Char) : Prop where
  nonempty : cs ≠ []
  digits : forall c, c ∈ cs -> isDigit c = true

theorem readBelow_eq_ok_iff {n : Nat} {cs : List Char} (positive : 0 < limit) :
    readBelow limit cs = .ok n ↔ exists digits, IsDigits digits ∧
      (cs = digits ∨ cs = '+' :: digits) ∧ ofDigits digits = n ∧ n < limit := by
  have extend (cs : List Char) : extendBelow limit 0 cs = .ok n ↔
      (forall c, c ∈ cs -> isDigit c = true) ∧ ofDigits cs = n ∧ n < limit :=
    extendBelow_eq_ok_iff positive
  constructor
  · intro read
    unfold readBelow at read
    split at read
    · cases read
    · cases read
    · rename_i digits other
      obtain ⟨all, value, least⟩ := (extend digits).1 read
      exact ⟨digits, ⟨fun none => other (none ▸ rfl), all⟩, .inr rfl, value, least⟩
    · rename_i nonempty _ _
      obtain ⟨all, value, least⟩ := (extend cs).1 read
      exact ⟨cs, ⟨nonempty, all⟩, .inl rfl, value, least⟩
  · rintro ⟨digits, ⟨nonempty, all⟩, sign, value, least⟩
    have read := (extend digits).2 ⟨all, value, least⟩
    obtain ⟨c, rest, rfl⟩ := List.exists_cons_of_ne_nil nonempty
    have digit : isDigit c = true := all c List.mem_cons_self
    rcases sign with rfl | rfl
    · unfold readBelow
      split
      · rename_i none
        cases none
      · rename_i plus
        cases plus
        cases digit
      · rename_i plus
        cases plus
        cases digit
      · exact read
    · exact read

end

end Numeric
end RobotConsole
