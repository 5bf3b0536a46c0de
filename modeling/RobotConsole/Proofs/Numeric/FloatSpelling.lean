import RobotConsole.Numeric.Binary64
import RobotConsole.Numeric.FloatLiteral
import RobotConsole.Proofs.Numeric.Decimal

/-!
# Spellings of float literals

The grammar of float literals, and that exactly its texts are read. A literal that is neither
infinite nor a NaN is a decimal, and its text ends with a digit or with a point.
-/

namespace RobotConsole
namespace Numeric

/-! ## Signs -/

inductive SpellsSign : List Char -> Bool -> Prop where
  | none : SpellsSign [] false
  | plus : SpellsSign ['+'] false
  | minus : SpellsSign ['-'] true

def Unsigned (cs : List Char) : Prop :=
  forall c, cs.head? = some c -> c ≠ '+' ∧ c ≠ '-'

theorem exists_sign (cs : List Char) :
    exists sign, SpellsSign sign (spanSign cs).1 ∧ cs = sign ++ (spanSign cs).2 := by
  unfold spanSign
  split
  · exact ⟨['+'], .plus, rfl⟩
  · exact ⟨['-'], .minus, rfl⟩
  · exact ⟨[], .none, rfl⟩

theorem spanSign_append {sign cs : List Char} {negative : Bool}
    (signed : SpellsSign sign negative) (unsigned : Unsigned cs) :
    spanSign (sign ++ cs) = (negative, cs) := by
  cases signed with
  | none =>
      rw [List.nil_append]
      unfold spanSign
      split
      · exact absurd rfl (unsigned '+' rfl).1
      · exact absurd rfl (unsigned '-' rfl).2
      · rfl
  | plus => rfl
  | minus => rfl

/-! ## Characters of a number -/

/-- A digit or the point. -/
def InNumber (c : Char) : Prop :=
  isDigit c = true ∨ c = '.'

instance (c : Char) : Decidable (InNumber c) :=
  inferInstanceAs (Decidable (isDigit c = true ∨ c = '.'))

section

variable {c : Char}

theorem InNumber.unsigned (inside : InNumber c) : c ≠ '+' ∧ c ≠ '-' := by
  constructor
  · rintro rfl
    exact absurd inside (by decide)
  · rintro rfl
    exact absurd inside (by decide)

theorem InNumber.toLower (inside : InNumber c) : c.toLower = c := by
  have small : c.val.toNat ≤ 57 := by
    rcases inside with digit | rfl
    · unfold isDigit at digit
      simp only [Bool.and_eq_true, decide_eq_true_eq] at digit
      exact digit.2
    · decide
  unfold Char.toLower
  rw [dif_neg]
  rintro ⟨capital, -⟩
  have large : 65 ≤ c.val.toNat := capital
  omega

end

theorem IsDigits.unsigned {digits : List Char} (decimal : IsDigits digits) : Unsigned digits := by
  intro c first
  exact InNumber.unsigned (.inl (decimal.digits c (List.mem_of_mem_head? first)))

namespace FloatLiteral

/-! ## The grammar -/

/-- Digits, with a point at either end or between them or without one: those before the point, and
those behind it. -/
inductive SpellsDigits : List Char -> List Char -> List Char -> Prop where
  | whole {whole : List Char} (decimal : IsDigits whole) : SpellsDigits whole whole []
  | pointed {whole fraction : List Char} (decimal : IsDigits (whole ++ fraction)) :
      SpellsDigits (whole ++ '.' :: fraction) whole fraction

inductive SpellsExponent : List Char -> Int -> Prop where
  | none : SpellsExponent [] 0
  | given {mark : Char} {sign digits : List Char} {negative : Bool}
      (marked : mark = 'e' ∨ mark = 'E') (signed : SpellsSign sign negative)
      (decimal : IsDigits digits) :
      SpellsExponent (mark :: (sign ++ digits))
        (if negative then -(ofDigits digits : Int) else ofDigits digits)

/-- A literal is a word in any letter case or a decimal, with a sign ahead or without one. The digits
of a decimal are those of both sides of the point, and those behind it lower the exponent. -/
inductive Spells : List Char -> FloatLiteral -> Prop where
  | nan {sign word : List Char} {negative : Bool} (signed : SpellsSign sign negative)
      (named : word.map Char.toLower = "nan".toList) : Spells (sign ++ word) nan
  | infinite {sign word : List Char} {negative : Bool} (signed : SpellsSign sign negative)
      (named : word.map Char.toLower = "inf".toList ∨
        word.map Char.toLower = "infinity".toList) :
      Spells (sign ++ word) (infinite negative)
  | decimal {sign number whole fraction scale : List Char} {negative : Bool} {exponent : Int}
      (signed : SpellsSign sign negative) (digits : SpellsDigits number whole fraction)
      (scaled : SpellsExponent scale exponent) :
      Spells (sign ++ (number ++ scale))
        (decimal negative (ofDigits (whole ++ fraction)) (exponent - fraction.length))

section

variable {cs number whole fraction scale : List Char} {negative : Bool} {exponent : Int}
  {literal : FloatLiteral}

theorem SpellsDigits.decimal (digits : SpellsDigits number whole fraction) :
    IsDigits (whole ++ fraction) := by
  cases digits with
  | whole decimal =>
      rw [List.append_nil]
      exact decimal
  | pointed decimal => exact decimal

theorem SpellsDigits.nonempty (digits : SpellsDigits number whole fraction) : number ≠ [] := by
  cases digits with
  | whole decimal => exact decimal.nonempty
  | pointed decimal => simp

theorem SpellsDigits.inNumber (digits : SpellsDigits number whole fraction) {c : Char}
    (mem : c ∈ number) : InNumber c := by
  cases digits with
  | whole decimal => exact .inl (decimal.digits c mem)
  | pointed decimal =>
      rcases List.mem_append.1 mem with mem | mem
      · exact .inl (decimal.digits c (List.mem_append_left _ mem))
      · rcases List.mem_cons.1 mem with point | mem
        · exact .inr point
        · exact .inl (decimal.digits c (List.mem_append_right _ mem))

theorem SpellsDigits.head (digits : SpellsDigits number whole fraction) :
    exists c rest, number = c :: rest ∧ InNumber c := by
  obtain ⟨c, rest, text⟩ := List.exists_cons_of_ne_nil digits.nonempty
  exact ⟨c, rest, text, digits.inNumber (text ▸ List.mem_cons_self)⟩

/-! ## Exponents -/

theorem SpellsExponent.ahead (scaled : SpellsExponent scale exponent) {c : Char}
    (first : scale.head? = some c) : ¬ InNumber c := by
  cases scaled with
  | none => cases first
  | given marked signed decimal =>
      cases first
      rcases marked with rfl | rfl
      · decide
      · decide

theorem readExponent?_cons (mark : Char) (rest : List Char) :
    readExponent? (mark :: rest) =
      if mark = 'e' ∨ mark = 'E' then
        if (spanSign rest).2 ≠ [] ∧ (spanSign rest).2.all isDigit then
          some (if (spanSign rest).1 then -(ofDigits (spanSign rest).2 : Int)
            else ofDigits (spanSign rest).2)
        else none
      else none :=
  rfl

theorem readExponent?_eq_some_iff :
    readExponent? cs = some exponent ↔ SpellsExponent cs exponent := by
  constructor
  · intro read
    cases cs with
    | nil =>
        cases read
        exact .none
    | cons mark rest =>
        rw [readExponent?_cons] at read
        split at read
        · rename_i marked
          split at read
          · rename_i decimal
            cases read
            obtain ⟨sign, signed, text⟩ := exists_sign rest
            have given := SpellsExponent.given marked signed
              ⟨decimal.1, fun c mem => List.all_eq_true.1 decimal.2 c mem⟩
            rw [← text] at given
            exact given
          · cases read
        · cases read
  · intro scaled
    cases scaled with
    | none => rfl
    | given marked signed decimal =>
        rw [readExponent?_cons, if_pos marked, spanSign_append signed decimal.unsigned]
        exact if_pos ⟨decimal.nonempty, List.all_eq_true.2 decimal.digits⟩

/-! ## Decimals -/

/-- The digits in front of a text, those behind a point that follows them, and the rest. -/
inductive SpansNumber (cs : List Char) : List Char -> List Char -> List Char -> Prop where
  | whole {whole rest : List Char} (span : spanDigits cs = (whole, rest))
      (noPoint : rest.head? ≠ some '.') : SpansNumber cs whole [] rest
  | pointed {whole tail fraction rest : List Char} (span : spanDigits cs = (whole, '.' :: tail))
      (behind : spanDigits tail = (fraction, rest)) : SpansNumber cs whole fraction rest

theorem exists_spansNumber (cs : List Char) :
    exists whole fraction rest, SpansNumber cs whole fraction rest := by
  have span : spanDigits cs = ((spanDigits cs).1, (spanDigits cs).2) := rfl
  by_cases point : (spanDigits cs).2.head? = some '.'
  · obtain ⟨tail, pointed⟩ := List.head?_eq_some_iff.1 point
    rw [pointed] at span
    exact ⟨_, _, _, .pointed span rfl⟩
  · exact ⟨_, _, _, .whole span point⟩

theorem readDecimal?_of_spans {rest : List Char} (spans : SpansNumber cs whole fraction rest) :
    readDecimal? negative cs =
      if whole = [] ∧ fraction = [] then none
      else (readExponent? rest).map fun exponent =>
        decimal negative (ofDigits (whole ++ fraction)) (exponent - fraction.length) := by
  unfold readDecimal?
  cases spans with
  | whole span noPoint =>
      rw [span]
      dsimp only
      split
      · exact absurd rfl noPoint
      · rfl
  | pointed span behind =>
      rw [span]
      simp only [behind]

theorem SpansNumber.spells {rest : List Char} (spans : SpansNumber cs whole fraction rest)
    (some : ¬ (whole = [] ∧ fraction = [])) :
    exists number, SpellsDigits number whole fraction ∧ cs = number ++ rest := by
  have digits {ds front rest : List Char} (span : spanDigits ds = (front, rest)) :
      ds = front ++ rest ∧ forall c, c ∈ front -> isDigit c = true := by
    cases span
    exact ⟨(spanDigits_append ds).symm, fun c mem => isDigit_of_mem_spanDigits mem⟩
  cases spans with
  | whole span noPoint =>
      obtain ⟨text, all⟩ := digits span
      exact ⟨whole, .whole ⟨fun none => some ⟨none, rfl⟩, all⟩, text⟩
  | @pointed tail _ _ span behind =>
      obtain ⟨text, all⟩ := digits span
      obtain ⟨text', all'⟩ := digits behind
      refine ⟨whole ++ '.' :: fraction, .pointed ⟨?_, ?_⟩, ?_⟩
      · intro none
        exact some (List.append_eq_nil_iff.1 none)
      · intro c mem
        exact (List.mem_append.1 mem).elim (all c) (all' c)
      · rw [text, text', List.append_assoc]
        rfl

theorem SpellsDigits.spans {rest : List Char} (digits : SpellsDigits number whole fraction)
    (stop : forall c, rest.head? = some c -> ¬ InNumber c) :
    SpansNumber (number ++ rest) whole fraction rest := by
  have noDigit : NoDigitAhead rest :=
    fun c first => eq_false_of_ne_true fun digit => stop c first (.inl digit)
  cases digits with
  | whole decimal =>
      apply SpansNumber.whole (spanDigits_append_of_digits decimal.digits noDigit)
      intro first
      exact stop '.' first (.inr rfl)
  | pointed decimal =>
      have behind : spanDigits (fraction ++ rest) = (fraction, rest) :=
        spanDigits_append_of_digits
          (fun c mem => decimal.digits c (List.mem_append_right _ mem)) noDigit
      refine .pointed ?_ behind
      rw [List.append_assoc]
      apply spanDigits_append_of_digits
      · intro c mem
        exact decimal.digits c (List.mem_append_left _ mem)
      · intro c first
        cases first
        rfl

theorem readDecimal?_eq_some_iff : readDecimal? negative cs = some literal ↔
    exists number whole fraction scale exponent, SpellsDigits number whole fraction ∧
      SpellsExponent scale exponent ∧ cs = number ++ scale ∧
      literal = decimal negative (ofDigits (whole ++ fraction)) (exponent - fraction.length) := by
  constructor
  · intro read
    obtain ⟨whole, fraction, scale, spans⟩ := exists_spansNumber cs
    rw [readDecimal?_of_spans spans] at read
    split at read
    · cases read
    · rename_i some
      obtain ⟨number, digits, text⟩ := spans.spells some
      obtain ⟨exponent, scaled, same⟩ := Option.map_eq_some_iff.1 read
      exact ⟨number, whole, fraction, scale, exponent, digits,
        readExponent?_eq_some_iff.1 scaled, text, same.symm⟩
  · rintro ⟨number, whole, fraction, scale, exponent, digits, scaled, rfl, rfl⟩
    have some : ¬ (whole = [] ∧ fraction = []) :=
      fun none => digits.decimal.nonempty (List.append_eq_nil_iff.2 none)
    rw [readDecimal?_of_spans (digits.spans fun c first => scaled.ahead first), if_neg some,
      readExponent?_eq_some_iff.2 scaled]
    rfl

/-! ## Literals -/

theorem unsigned_of_map_toLower {word name : List Char} (named : word.map Char.toLower = name)
    (letters : name.head? = some 'n' ∨ name.head? = some 'i') : Unsigned word := by
  intro c first
  have lower : name.head? = some c.toLower := by
    rw [← named, List.head?_map, first]
    rfl
  constructor
  · rintro rfl
    rw [lower] at letters
    exact absurd letters (by decide)
  · rintro rfl
    rw [lower] at letters
    exact absurd letters (by decide)

theorem SpellsDigits.unsigned (digits : SpellsDigits number whole fraction) (rest : List Char) :
    Unsigned (number ++ rest) := by
  obtain ⟨c, tail, rfl, inside⟩ := digits.head
  rintro _ ⟨⟩
  exact inside.unsigned

theorem SpellsDigits.map_toLower_ne (digits : SpellsDigits number whole fraction)
    (rest : List Char) {word : List Char}
    (letter : forall c, word.head? = some c -> ¬ InNumber c) :
    (number ++ rest).map Char.toLower ≠ word := by
  obtain ⟨c, tail, rfl, inside⟩ := digits.head
  rintro rfl
  exact letter c.toLower rfl (inside.toLower.symm ▸ inside)

theorem read?_eq_some_iff : read? cs = some literal ↔ Spells cs literal := by
  constructor
  · intro read
    obtain ⟨sign, signed, text⟩ := exists_sign cs
    unfold read? at read
    dsimp only at read
    rw [text]
    split at read
    · rename_i named
      cases read
      exact .nan signed named
    · split at read
      · rename_i named
        cases read
        exact .infinite signed named
      · obtain ⟨number, whole, fraction, scale, exponent, digits, scaled, body, rfl⟩ :=
          readDecimal?_eq_some_iff.1 read
        rw [body]
        exact .decimal signed digits scaled
  · intro spelled
    unfold read?
    cases spelled with
    | nan signed named =>
        rw [spanSign_append signed (unsigned_of_map_toLower named (.inl rfl))]
        exact if_pos named
    | @infinite _ word _ signed named =>
        have unsigned : Unsigned word := by
          rcases named with named | named
          · exact unsigned_of_map_toLower named (.inr rfl)
          · exact unsigned_of_map_toLower named (.inr rfl)
        have noNan : word.map Char.toLower ≠ "nan".toList := by
          rcases named with named | named
          · rw [named]
            decide
          · rw [named]
            decide
        rw [spanSign_append signed unsigned]
        dsimp only
        rw [if_neg noNan, if_pos named]
    | @decimal _ number _ _ scale _ _ signed digits scaled =>
        have noNan : (number ++ scale).map Char.toLower ≠ "nan".toList := by
          apply digits.map_toLower_ne
          rintro _ ⟨⟩
          decide
        have noInfinity {word : List Char} (first : word.head? = some 'i') :
            (number ++ scale).map Char.toLower ≠ word := by
          apply digits.map_toLower_ne
          intro c first'
          cases first.symm.trans first'
          decide
        rw [spanSign_append signed (digits.unsigned scale)]
        dsimp only
        rw [if_neg noNan, if_neg fun named => named.elim (noInfinity rfl) (noInfinity rfl)]
        exact readDecimal?_eq_some_iff.2 ⟨_, _, _, _, _, digits, scaled, rfl, rfl⟩

/-- Exactly the texts of the grammar are read. -/
theorem read_eq_ok_iff : read cs = .ok literal ↔ Spells cs literal := by
  rw [← read?_eq_some_iff]
  unfold read
  split
  · rename_i empty
    have none : read? cs = none := by
      rw [empty]
      rfl
    simp [none]
  · cases read? cs <;> simp

/-! ## The end of a literal -/

theorem exists_getLast? {ds : List Char} (nonempty : ds ≠ []) :
    exists c, ds.getLast? = some c ∧ c ∈ ds :=
  ⟨ds.getLast nonempty, List.getLast?_eq_some_getLast nonempty, List.getLast_mem nonempty⟩

theorem SpellsExponent.last (scaled : SpellsExponent scale exponent) {c : Char}
    (last : scale.getLast? = some c) : InNumber c := by
  cases scaled with
  | none => cases last
  | @given mark sign digits _ _ signed decimal =>
      obtain ⟨d, last', mem⟩ := exists_getLast? decimal.nonempty
      rw [← List.singleton_append, List.getLast?_append, List.getLast?_append, last'] at last
      cases last
      exact .inl (decimal.digits _ mem)

theorem Spells.last {digits : Nat} (spelled : Spells cs (.decimal negative digits exponent)) :
    exists c, cs.getLast? = some c ∧ InNumber c := by
  cases spelled with
  | decimal signed digits scaled =>
      obtain ⟨d, last, mem⟩ := exists_getLast? digits.nonempty
      rw [List.getLast?_append, List.getLast?_append, last]
      cases last' : List.getLast? _ with
      | none => exact ⟨d, rfl, digits.inNumber mem⟩
      | some c => exact ⟨c, rfl, scaled.last last'⟩

theorem exists_decimal_of_isFinite (finite : isFinite literal.value = true) :
    exists negative digits exponent, literal = decimal negative digits exponent := by
  cases literal with
  | nan => exact absurd finite (by decide)
  | infinite negative =>
      cases negative with
      | false => exact absurd finite (by decide)
      | true => exact absurd finite (by decide)
  | decimal negative digits exponent => exact ⟨negative, digits, exponent, rfl⟩

end

end FloatLiteral
end Numeric
end RobotConsole
