import RobotConsole.Device.Basic
import RobotConsole.Proofs.Numeric.Decimal
import RobotConsole.Proofs.Text.Trim

/-!
# Device numbers as texts

A device number is read of exactly the texts that are made of digits, of a plus sign in front of
them or none, and of blanks around both.
-/

namespace RobotConsole

namespace Text

theorem trimChars_of_not_blank {cs : List Char}
    (visible : forall c, c ∈ cs -> isBlank c = false) : trimChars cs = cs := by
  have front {cs : List Char} (visible : forall c, c ∈ cs -> isBlank c = false) :
      cs.dropWhile isBlank = cs := by
    cases cs with
    | nil => rfl
    | cons c cs => simp [visible c]
  unfold trimChars trimStart trimEnd
  rw [front visible, front fun c mem => visible c (List.mem_reverse.1 mem), List.reverse_reverse]

theorem isBlank_of_digit {c : Char} (digit : Numeric.isDigit c = true) : isBlank c = false := by
  unfold Numeric.isDigit at digit
  simp only [Bool.and_eq_true, decide_eq_true_eq] at digit
  have low : 48 ≤ c.toNat := digit.1
  have high : c.toNat ≤ 57 := digit.2
  rw [← Bool.not_eq_true]
  simp only [isBlank, blankRanges, List.any_cons, List.any_nil, Bool.or_eq_true, Bool.and_eq_true,
    decide_eq_true_eq, Bool.false_eq_true, or_false]
  omega

end Text

namespace DeviceId

theorem parse_text (id : DeviceId) : parse id.text = .ok id := by
  have digits : id.text.toList = Nat.toDigits 10 id.number := Numeric.toList_toString _
  have trimmed : Text.trimChars id.text.toList = Nat.toDigits 10 id.number := by
    rw [digits]
    apply Text.trimChars_of_not_blank
    intro c mem
    exact Text.isBlank_of_digit (Numeric.isDigit_of_mem_toDigits mem)
  unfold parse
  rw [trimmed, Numeric.readBelow_toDigits id.small]
  exact dif_pos id.small

section

variable {digits : List Char} (decimal : Numeric.IsDigits digits)

include decimal

theorem trimmed_digits : Text.Trimmed digits :=
  Text.trimmed_of_visible decimal.nonempty fun c mem =>
    Text.isBlank_of_digit (decimal.digits c mem)

theorem trimmed_plus_digits : Text.Trimmed ('+' :: digits) := by
  apply Text.trimmed_of_visible (List.cons_ne_nil _ _)
  intro c mem
  rcases List.mem_cons.1 mem with rfl | mem
  · rfl
  · exact Text.isBlank_of_digit (decimal.digits c mem)

end

/-- The text is made of digits, of a plus sign in front of them or none, and of blanks around. -/
def Spelled (digits : List Char) (s : String) : Prop :=
  exists before after, Text.AllBlank before ∧ Text.AllBlank after ∧
    (s.toList = before ++ digits ++ after ∨ s.toList = before ++ '+' :: digits ++ after)

theorem trimChars_eq_or_iff {digits : List Char} (decimal : Numeric.IsDigits digits) {s : String} :
    (Text.trimChars s.toList = digits ∨ Text.trimChars s.toList = '+' :: digits) ↔
      Spelled digits s := by
  rw [(trimmed_digits decimal).trimChars_eq_iff, (trimmed_plus_digits decimal).trimChars_eq_iff]
  constructor
  · rintro (⟨before, after, ahead, behind, text⟩ | ⟨before, after, ahead, behind, text⟩)
    · exact ⟨before, after, ahead, behind, .inl text⟩
    · exact ⟨before, after, ahead, behind, .inr text⟩
  · rintro ⟨before, after, ahead, behind, text | text⟩
    · exact .inl ⟨before, after, ahead, behind, text⟩
    · exact .inr ⟨before, after, ahead, behind, text⟩

theorem parse_eq_ok_iff_readBelow {s : String} {id : DeviceId} : parse s = .ok id ↔
    Numeric.readBelow (Numeric.wordSize 128) (Text.trimChars s.toList) = .ok id.number := by
  unfold parse
  cases read : Numeric.readBelow (Numeric.wordSize 128) (Text.trimChars s.toList) with
  | error e => simp
  | ok n =>
      dsimp only
      constructor
      · intro same
        split at same
        · cases same
          rfl
        · cases same
      · rintro ⟨⟩
        exact dif_pos id.small

theorem parse_eq_ok_iff {s : String} {id : DeviceId} : parse s = .ok id ↔
    exists digits, Numeric.IsDigits digits ∧ Spelled digits s ∧
      Numeric.ofDigits digits = id.number := by
  rw [parse_eq_ok_iff_readBelow, Numeric.readBelow_eq_ok_iff (by decide)]
  constructor
  · rintro ⟨digits, decimal, sign, value, -⟩
    exact ⟨digits, decimal, (trimChars_eq_or_iff decimal).1 sign, value⟩
  · rintro ⟨digits, decimal, spelled, value⟩
    exact ⟨digits, decimal, (trimChars_eq_or_iff decimal).2 spelled, value, id.small⟩

end DeviceId
end RobotConsole
