import Mathlib.Data.List.Forall2
import RobotConsole.Proofs.Dict.Lookup
import RobotConsole.Proofs.Json.Naturals
import RobotConsole.Proofs.Wire.RoundTrip

/-!
# Device numbers on the wire

A device number comes as a text, as a JSON string, as a JSON number or as a name within an object.
All of these agree; only a JSON number has to be of digits alone and of up to 64 bits, since larger
ones are floats to a reader.
-/

namespace RobotConsole

namespace Wire

open Json (Draft)
open Numeric (ofDigits)

/-! ## Decoding -/

theorem deviceOfText_eq_ok_iff {s : String} {id : DeviceId} :
    deviceOfText s = .ok id ↔ DeviceId.parse s = .ok id := by
  unfold deviceOfText
  cases DeviceId.parse s <;> simp

theorem decodeDeviceId_eq_ok_iff {d : Draft} {id : DeviceId} : decodeDeviceId d = .ok id ↔
    (exists s, d = .string s ∧ DeviceId.parse s = .ok id) ∨ d = .integer id.number := by
  cases d with
  | string s => simp [decodeDeviceId, deviceOfText_eq_ok_iff]
  | integer n =>
      have small := id.small
      unfold decodeDeviceId
      dsimp only
      split
      · rename_i negative
        simp only [reduceCtorEq, false_and, exists_false, false_or, Draft.integer.injEq, false_iff]
        omega
      · rename_i nonneg
        split
        · simp only [reduceCtorEq, false_and, exists_false, false_or, Draft.integer.injEq,
            Except.ok.injEq]
          constructor
          · rintro rfl
            exact (Int.toNat_of_nonneg (Int.not_lt.1 nonneg)).symm
          · rintro rfl
            rfl
        · simp only [reduceCtorEq, false_and, exists_false, false_or, Draft.integer.injEq,
            false_iff]
          rintro rfl
          exact absurd small (by assumption)
  | _ => simp [decodeDeviceId]

theorem decodeText_string (style : Json.FloatStyle) (s : String) (id : DeviceId) :
    decodeText decodeDeviceId ((Json.string s).compact style) = .ok id ↔
      DeviceId.parse s = .ok id := by
  rw [decodeText_compact decodeDeviceId style (.string s) (Nat.zero_le _)]
  exact deviceOfText_eq_ok_iff

theorem decodeText_number_iff {text : String} {id : DeviceId} :
    ((Draft.skipSpace text.toList).head? ≠ some '"' ∧
        decodeText decodeDeviceId text = .ok id) ↔
      exists digits, Draft.IsWhole digits ∧ Json.Around digits text.toList ∧
        ofDigits digits = id.number ∧ ofDigits digits < Numeric.wordSize 64 := by
  rw [← Draft.read_natural_iff]
  unfold decodeText
  rw [decodeChars_eq_ok_iff, decodeDeviceId_eq_ok_iff]
  constructor
  · rintro ⟨noQuote, ⟨s, held, -⟩ | held, finished⟩
    · exact absurd (Draft.quote_of_readValue (Prod.ext held rfl)) noQuote
    · exact ⟨held, finished⟩
  · rintro ⟨held, finished⟩
    refine ⟨?_, .inr held, finished⟩
    intro quote
    obtain ⟨digits, whole, around, -⟩ := Draft.read_natural_iff.1 ⟨held, finished⟩
    obtain ⟨c, rest, rfl⟩ := List.exists_cons_of_ne_nil whole.decimal.nonempty
    have digit := whole.decimal.digits c List.mem_cons_self
    obtain ⟨after, front⟩ := Draft.skipSpace_around around (Draft.isSpace_of_digit digit) []
    rw [List.append_nil] at front
    rw [front] at quote
    cases quote
    cases digit

theorem parse_digits {digits : List Char} {id : DeviceId} (decimal : Numeric.IsDigits digits)
    (value : ofDigits digits = id.number) : DeviceId.parse (String.ofList digits) = .ok id := by
  refine DeviceId.parse_eq_ok_iff.2 ⟨digits, decimal, ⟨[], [], nofun, nofun, .inl ?_⟩, value⟩
  rw [String.toList_ofList]
  exact (List.append_nil digits).symm

/-! ## Samples by device -/

def DecodesTo (member : String × Draft) (entry : DeviceId × ParameterReadings) : Prop :=
  DeviceId.parse member.1 = .ok entry.1 ∧ decodeReadings member.2 = .ok entry.2

def sampleStep (samples : SampleMap) (name : String) (value : Draft) : Decoded SampleMap := do
  let id ← deviceOfText name
  .ok (Dict.insert id (← decodeReadings value) samples)

theorem sampleStep_eq_ok_iff {samples next : SampleMap} {name : String} {value : Draft} :
    sampleStep samples name value = .ok next ↔
      exists entry, DecodesTo (name, value) entry ∧ Dict.insert entry.1 entry.2 samples = next := by
  constructor
  · intro done
    obtain ⟨id, device, done⟩ := exists_of_bind done
    obtain ⟨readings, decoded, done⟩ := exists_of_bind done
    cases done
    exact ⟨(id, readings), ⟨deviceOfText_eq_ok_iff.1 device, decoded⟩, rfl⟩
  · rintro ⟨⟨id, readings⟩, ⟨device, decoded⟩, rfl⟩
    show (deviceOfText name).bind _ = _
    rw [deviceOfText_eq_ok_iff.2 device]
    show (decodeReadings value).bind _ = _
    rw [decoded]
    rfl

theorem foldMembers_sampleStep_iff {members : List (String × Draft)} {samples result : SampleMap} :
    foldMembers sampleStep samples members .closed = .ok result ↔
      exists entries, List.Forall₂ DecodesTo members entries ∧
        entries.foldl (fun d entry => Dict.insert entry.1 entry.2 d) samples = result := by
  induction members generalizing samples with
  | nil =>
      constructor
      · rintro ⟨⟩
        exact ⟨[], .nil, rfl⟩
      · rintro ⟨entries, all, rfl⟩
        cases all
        rfl
  | cons member rest ih =>
      obtain ⟨name, value⟩ := member
      constructor
      · intro done
        obtain ⟨next, first, done⟩ := exists_of_bind done
        obtain ⟨entry, decoded, rfl⟩ := sampleStep_eq_ok_iff.1 first
        obtain ⟨entries, all, rfl⟩ := ih.1 done
        exact ⟨entry :: entries, .cons decoded all, rfl⟩
      · rintro ⟨entries, all, rfl⟩
        cases all with
        | @cons _ entry _ entries decoded all =>
            rw [foldMembers_cons (sampleStep_eq_ok_iff.2 ⟨entry, decoded, rfl⟩)]
            exact ih.2 ⟨entries, all, rfl⟩

theorem decodeSamples_eq_ok_iff {members : List (String × Draft)} {samples : SampleMap} :
    decodeSamples (.object members .closed) = .ok samples ↔
      Dict.Ascending samples ∧ exists entries, List.Forall₂ DecodesTo members entries ∧
        forall id readings, (id, readings) ∈ samples ↔ Dict.IsLast entries id readings := by
  rw [show decodeSamples (.object members .closed) = foldMembers sampleStep [] members .closed
    from rfl, foldMembers_sampleStep_iff]
  constructor
  · rintro ⟨entries, all, rfl⟩
    exact ⟨Dict.ascending_ofList entries, entries, all, fun _ _ => Dict.mem_ofList_iff_isLast⟩
  · rintro ⟨ascending, entries, all, held⟩
    refine ⟨entries, all, (Dict.ascending_ofList entries).ext ascending ?_⟩
    intro id
    apply Option.ext
    intro readings
    rw [(Dict.ascending_ofList entries).find?_iff, ascending.find?_iff, held,
      Dict.mem_ofList_iff_isLast]

/-- Every device number is read back of its text and of its JSON. What is read as a device number:

* a text if it is one or more ASCII digits, after a plus sign or not, with blanks around or not,
  and the number has up to 128 bits;
* a JSON string if its text is;
* another JSON text if it is a number of digits alone that has up to 64 bits, and then it is the
  device that the string of these digits is;
* the samples by device if each name is such a text, and then each device, however its names are
  spelled, comes once, with the readings given last. -/
theorem device_numbers_on_the_wire (style : Json.FloatStyle) :
    (forall id : DeviceId, DeviceId.parse id.text = .ok id ∧
      decodeText decodeDeviceId (id.toJson.compact style) = .ok id) ∧
    (forall s id, (DeviceId.parse s = .ok id ↔ exists digits, Numeric.IsDigits digits ∧
        DeviceId.Spelled digits s ∧ ofDigits digits = id.number) ∧
      (decodeText decodeDeviceId ((Json.string s).compact style) = .ok id ↔
        DeviceId.parse s = .ok id)) ∧
    (forall text id, ((Draft.skipSpace text.toList).head? ≠ some '"' ∧
        decodeText decodeDeviceId text = .ok id) ↔
      exists digits, Draft.IsWhole digits ∧ Json.Around digits text.toList ∧
        ofDigits digits = id.number ∧ ofDigits digits < Numeric.wordSize 64 ∧
        decodeText decodeDeviceId ((Json.string (String.ofList digits)).compact style) = .ok id) ∧
    forall members samples, decodeSamples (.object members .closed) = .ok samples ↔
      Dict.Ascending samples ∧ exists entries, List.Forall₂ DecodesTo members entries ∧
        forall id readings, (id, readings) ∈ samples ↔ Dict.IsLast entries id readings := by
  refine ⟨?_, ?_, ?_, fun _ _ => decodeSamples_eq_ok_iff⟩
  · intro id
    exact ⟨id.parse_text, (decodeText_string style id.text id).2 id.parse_text⟩
  · intro s id
    exact ⟨DeviceId.parse_eq_ok_iff, decodeText_string style s id⟩
  · intro text id
    rw [decodeText_number_iff]
    constructor
    · rintro ⟨digits, whole, around, value, small⟩
      exact ⟨digits, whole, around, value, small,
        (decodeText_string style _ id).2 (parse_digits whole.decimal value)⟩
    · rintro ⟨digits, whole, around, value, small, -⟩
      exact ⟨digits, whole, around, value, small⟩

end Wire
end RobotConsole
