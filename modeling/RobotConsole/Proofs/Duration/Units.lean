import RobotConsole.Duration.Text
import RobotConsole.Proofs.Numeric.FloatSpelling
import RobotConsole.Proofs.Text.Trim

/-!
# Units of durations

The symbols of all units end with the same letter, and a text is tried against the longer ones
first. Nothing is lost by this: no number ends with a letter of a unit, so a text gives a duration
in one unit at most, and it is read in this one.
-/

namespace RobotConsole

open Numeric (FloatLiteral InNumber)

/-! ## Symbols -/

namespace DurationUnit

/-- The letter of a unit in front of the one that all units end with. -/
def letter? : DurationUnit -> Option Char
  | nanoseconds => some 'n'
  | microseconds => some 'µ'
  | microsecondsAscii => some 'u'
  | milliseconds => some 'm'
  | seconds => none

theorem toList_symbol (unit : DurationUnit) :
    unit.symbol.toList = unit.letter?.toList ++ ['s'] := by
  cases unit <;> decide

theorem letter?_injective {unit unit' : DurationUnit} (same : unit.letter? = unit'.letter?) :
    unit = unit' := by
  revert same
  cases unit <;> cases unit' <;> decide

theorem letter?_eq_none {unit : DurationUnit} (none : unit.letter? = none) : unit = seconds :=
  letter?_injective none

theorem letter_outside {unit : DurationUnit} {c : Char} (letter : unit.letter? = some c) :
    Text.isBlank c = false ∧ ¬ InNumber c := by
  cases unit with
  | seconds => cases letter
  | _ =>
      cases letter
      decide

theorem mem_all (unit : DurationUnit) : unit ∈ all := by
  cases unit <;> decide

end DurationUnit

namespace Duration

/-! ## The unit that is tried first -/

section

variable {cs front : List Char} {unit : DurationUnit}

theorem tryUnit_eq_some_iff {unit' : DurationUnit} :
    (Text.withoutSuffix? unit.symbol.toList cs).map (fun front => (unit, front)) =
      some (unit', front) ↔ unit' = unit ∧ cs = front ++ unit.symbol.toList := by
  rw [Option.map_eq_some_iff]
  constructor
  · rintro ⟨front, cut, ⟨⟩⟩
    exact ⟨rfl, Text.withoutSuffix?_eq_some_iff.1 cut⟩
  · rintro ⟨rfl, text⟩
    exact ⟨front, Text.withoutSuffix?_eq_some_iff.2 text, rfl⟩

theorem findSome?_units_ne_none {units : List DurationUnit} (mem : unit ∈ units)
    (text : cs = front ++ unit.symbol.toList) :
    units.findSome? (fun unit =>
      (Text.withoutSuffix? unit.symbol.toList cs).map fun front => (unit, front)) ≠ none := by
  intro none
  have missed := List.findSome?_eq_none_iff.1 none unit mem
  rw [tryUnit_eq_some_iff.2 ⟨rfl, text⟩] at missed
  cases missed

theorem text_of_splitUnit? (split : splitUnit? cs = some (unit, front)) :
    cs = front ++ unit.symbol.toList := by
  obtain ⟨unit', -, found⟩ := List.exists_of_findSome?_eq_some split
  obtain ⟨rfl, text⟩ := tryUnit_eq_some_iff.1 found
  exact text

theorem exists_splitUnit? (text : cs = front ++ unit.symbol.toList) :
    exists unit' front', splitUnit? cs = some (unit', front') := by
  obtain ⟨⟨unit', front'⟩, split⟩ :=
    Option.ne_none_iff_exists'.1 (findSome?_units_ne_none unit.mem_all text)
  exact ⟨unit', front', split⟩

theorem eq_seconds_of_splitUnit? (split : splitUnit? cs = some (.seconds, front))
    {unit' : DurationUnit} {front' : List Char} (text : cs = front' ++ unit'.symbol.toList) :
    unit' = .seconds := by
  have last : DurationUnit.all = DurationUnit.all.dropLast ++ [.seconds] := rfl
  have mem := unit'.mem_all
  unfold splitUnit? at split
  rw [last, List.findSome?_append, Option.or_eq_some_iff] at split
  rw [last, List.mem_append, List.mem_singleton] at mem
  rcases split with found | ⟨none, -⟩
  · obtain ⟨unit, longer, found⟩ := List.exists_of_findSome?_eq_some found
    obtain ⟨rfl, -⟩ := tryUnit_eq_some_iff.1 found
    exact absurd longer (by decide)
  · exact mem.resolve_left fun longer => findSome?_units_ne_none longer text none

end

/-! ## Spellings -/

/-- The text is, but for blanks, a number in front of the symbol of a unit, and the number is finite
and not negative. -/
structure Spelled (s : String) (unit : DurationUnit) (front : List Char)
    (literal : FloatLiteral) : Prop where
  text : Text.trimChars s.toList = front ++ unit.symbol.toList
  number : FloatLiteral.Spells (Text.trimChars front) literal
  finite : Numeric.isFinite literal.value = true
  nonNegative : ¬ literal.value < 0.0

section

variable {s : String} {unit unit' : DurationUnit} {front front' : List Char}
  {literal : FloatLiteral}

/-- The number does not end with the letter of a unit. -/
theorem Spelled.getLast?_ne (spelled : Spelled s unit front literal) {c : Char}
    (letter : unit'.letter? = some c) : front.getLast? ≠ some c := by
  intro last
  obtain ⟨visible, outside⟩ := DurationUnit.letter_outside letter
  obtain ⟨negative, digits, exponent, rfl⟩ :=
    FloatLiteral.exists_decimal_of_isFinite spelled.finite
  obtain ⟨d, last', inside⟩ := spelled.number.last
  rw [Text.getLast?_trimChars last visible] at last'
  cases last'
  exact outside inside

theorem Spelled.split (spelled : Spelled s unit front literal) :
    splitUnit? (Text.trimChars s.toList) = some (unit, front) := by
  obtain ⟨unit', front', split⟩ := exists_splitUnit? spelled.text
  have text := spelled.text.symm.trans (text_of_splitUnit? split)
  rw [unit.toList_symbol, unit'.toList_symbol, ← List.append_assoc, ← List.append_assoc,
    List.append_left_inj] at text
  cases own : unit.letter? with
  | none =>
      cases DurationUnit.letter?_eq_none own
      cases tried : unit'.letter? with
      | none =>
          cases DurationUnit.letter?_eq_none tried
          rw [own, Option.toList_none, List.append_nil, List.append_nil] at text
          rw [text]
          exact split
      | some c =>
          -- The number in front of the seconds would end with the letter of a longer unit.
          have last : front.getLast? = some c := by
            rw [own, tried, Option.toList_none, List.append_nil] at text
            rw [text]
            exact List.getLast?_concat
          exact absurd last (spelled.getLast?_ne tried)
  | some c =>
      cases tried : unit'.letter? with
      | none =>
          -- Seconds are tried last, so the longer unit would not have been passed over.
          cases DurationUnit.letter?_eq_none tried
          cases eq_seconds_of_splitUnit? split spelled.text
          cases own
      | some d =>
          rw [own, tried] at text
          obtain ⟨fronts, letters⟩ := List.append_inj' text rfl
          cases letters
          cases DurationUnit.letter?_injective (own.trans tried.symm)
          rw [fronts]
          exact split

theorem isNonNegative_iff {x : Float} :
    isNonNegative x = true ↔ Numeric.isFinite x = true ∧ ¬ x < 0.0 := by
  unfold isNonNegative
  simp

theorem Spelled.parse_eq (spelled : Spelled s unit front literal) :
    parse s = .ok ⟨clampedNat (literal.value * unit.factor)⟩ := by
  unfold parse
  dsimp only
  rw [spelled.split]
  dsimp only
  rw [FloatLiteral.read_eq_ok_iff.2 spelled.number]
  exact if_pos (isNonNegative_iff.2 ⟨spelled.finite, spelled.nonNegative⟩)

theorem exists_spelled_of_parse {d : Duration} (read : parse s = .ok d) :
    exists unit front literal, Spelled s unit front literal := by
  unfold parse at read
  dsimp only at read
  split at read
  · cases read
  · rename_i unit front split
    split at read
    · cases read
    · rename_i literal number
      split at read
      · rename_i check
        obtain ⟨finite, nonNegative⟩ := isNonNegative_iff.1 check
        exact ⟨unit, front, literal, text_of_splitUnit? split,
          FloatLiteral.read_eq_ok_iff.1 number, finite, nonNegative⟩
      · cases read

theorem Spelled.unique (spelled : Spelled s unit front literal) {literal' : FloatLiteral}
    (spelled' : Spelled s unit' front' literal') :
    unit' = unit ∧ front' = front ∧ literal' = literal := by
  cases spelled'.split.symm.trans spelled.split
  have read := FloatLiteral.read_eq_ok_iff.2 spelled.number
  rw [FloatLiteral.read_eq_ok_iff.2 spelled'.number] at read
  cases read
  exact ⟨rfl, rfl, rfl⟩

end

/-- A text gives a duration just if it is a number in front of one of the five units, whichever it
is, and the number is finite and not negative. It is that in one way only, and it is read in the
unit of this one. -/
theorem parse_reads_only_unit (s : String) :
    (DurationUnit.all.map fun unit => (unit.symbol, unit.factor)) =
      [("ns", 1.0), ("µs", 1000.0), ("us", 1000.0), ("ms", 1000000.0), ("s", 1000000000.0)] ∧
    ((exists d, parse s = .ok d) ↔ exists unit front literal, Spelled s unit front literal) ∧
    forall unit front literal, Spelled s unit front literal ->
      (forall unit' front' literal', Spelled s unit' front' literal' ->
        unit' = unit ∧ front' = front ∧ literal' = literal) ∧
      splitUnit? (Text.trimChars s.toList) = some (unit, front) ∧
      parse s = .ok ⟨clampedNat (literal.value * unit.factor)⟩ := by
  refine ⟨rfl, ⟨?_, ?_⟩, ?_⟩
  · rintro ⟨d, read⟩
    exact exists_spelled_of_parse read
  · rintro ⟨unit, front, literal, spelled⟩
    exact ⟨_, spelled.parse_eq⟩
  · intro unit front literal spelled
    exact ⟨fun _ _ _ => spelled.unique, spelled.split, spelled.parse_eq⟩

/-- Nanoseconds, with a sign, a point ahead, an exponent and blanks. -/
theorem parse_reads_only_unit_of_nanoseconds :
    Spelled "\t+.5E1 ns " .nanoseconds "+.5E1 ".toList (.decimal false 5 0) ∧
      (forall unit front literal, Spelled "\t+.5E1 ns " unit front literal ->
        unit = .nanoseconds ∧ front = "+.5E1 ".toList ∧ literal = .decimal false 5 0) ∧
      splitUnit? (Text.trimChars "\t+.5E1 ns ".toList) =
        some (.nanoseconds, "+.5E1 ".toList) ∧
      parse "\t+.5E1 ns " = .ok ⟨5⟩ := by
  have spelled : Spelled "\t+.5E1 ns " .nanoseconds "+.5E1 ".toList (.decimal false 5 0) := by
    refine ⟨by decide, ?_, by decide +kernel, by decide +kernel⟩
    rw [← FloatLiteral.read_eq_ok_iff]
    rfl
  have ⟨unique, split, read⟩ := (parse_reads_only_unit _).2.2 _ _ _ spelled
  have five : clampedNat (FloatLiteral.value (.decimal false 5 0) *
      DurationUnit.factor .nanoseconds) = 5 := by
    decide +kernel
  rw [five] at read
  exact ⟨spelled, unique, split, read⟩

/-- Of all literals only a NaN ends with the letter of a unit, and it gives no duration anyway. -/
example : parse "nans" = .error (.number .invalid) := by
  rfl

end Duration
end RobotConsole
