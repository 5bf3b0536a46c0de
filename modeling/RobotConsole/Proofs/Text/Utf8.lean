import Mathlib.Tactic.IntervalCases
import RobotConsole.Text.Utf8

/-!
# Decoding inverts encoding

Every text is read back from its bytes, and bytes that are no such encoding are not read at
all. The bytes of a character are compared with what the decoder makes of them, one length of
encodings after the other.
-/

namespace RobotConsole
namespace Text

def bytesOf (v : Nat) : List UInt8 :=
  if v ≤ 0x7F then [.ofNat v]
  else if v ≤ 0x7FF then [.ofNat (v / 64 % 32 + 192), .ofNat (v % 64 + 128)]
  else if v ≤ 0xFFFF then
    [.ofNat (v / 4096 % 16 + 224), .ofNat (v / 64 % 64 + 128), .ofNat (v % 64 + 128)]
  else
    [.ofNat (v / 262144 % 8 + 240), .ofNat (v / 4096 % 64 + 128), .ofNat (v / 64 % 64 + 128),
      .ofNat (v % 64 + 128)]

theorem utf8EncodeChar_eq (c : Char) : String.utf8EncodeChar c = bytesOf c.val.toNat :=
  rfl

theorem utf8EncodeChar_ofNat {v : Nat} (valid : v.isValidChar) :
    String.utf8EncodeChar (Char.ofNat v) = bytesOf v := by
  have number : (Char.ofNat v).val.toNat = v := by
    rw [Char.ofNat, dif_pos valid]
    rfl
  rw [utf8EncodeChar_eq, number]

theorem isContinuation_iff {b : Nat} : isContinuation b ↔ 0x80 ≤ b ∧ b ≤ 0xBF := by
  simp [isContinuation]

theorem ofNat_eq_of_toNat {n : Nat} {b : UInt8} (h : n = b.toNat) : UInt8.ofNat n = b := by
  rw [h]
  exact UInt8.ofNat_toNat

/-! ## What is read is spelled by the bytes -/

section

variable {b₀ b₁ b₂ b₃ : UInt8} {lead : LeadByte}

theorem bytesOf_two (found : leadByte? b₀.toNat = some lead) (one : lead.following = 1)
    (second : ¬ (b₁.toNat < lead.low ∨ lead.high < b₁.toNat)) :
    let v := 64 * lead.bits + (b₁.toNat - 0x80)
    v.isValidChar ∧ bytesOf v = [b₀, b₁] := by
  intro v
  have range : 0x80 ≤ v ∧ v ≤ 0x7FF ∧ v / 64 + 192 = b₀.toNat ∧ v % 64 + 128 = b₁.toNat := by
    unfold leadByte? at found
    repeat' split at found
    all_goals cases found
    all_goals
      dsimp only [v] at *
      omega
  constructor
  · exact .inl (by omega)
  · unfold bytesOf
    rw [if_neg (by omega), if_pos (by omega), ofNat_eq_of_toNat (b := b₀) (by omega),
      ofNat_eq_of_toNat (b := b₁) (by omega)]

theorem bytesOf_three (found : leadByte? b₀.toNat = some lead) (two : lead.following = 2)
    (second : ¬ (b₁.toNat < lead.low ∨ lead.high < b₁.toNat)) (third : isContinuation b₂.toNat) :
    let v := 64 * (64 * lead.bits + (b₁.toNat - 0x80)) + (b₂.toNat - 0x80)
    v.isValidChar ∧ bytesOf v = [b₀, b₁, b₂] := by
  intro v
  rw [isContinuation_iff] at third
  have range : 0x800 ≤ v ∧ v ≤ 0xFFFF ∧ (v < 0xD800 ∨ 0xDFFF < v) ∧ v / 4096 + 224 = b₀.toNat ∧
      v / 64 % 64 + 128 = b₁.toNat ∧ v % 64 + 128 = b₂.toNat := by
    unfold leadByte? at found
    repeat' split at found
    all_goals cases found
    all_goals
      dsimp only [v] at *
      omega
  constructor
  · unfold Nat.isValidChar
    omega
  · unfold bytesOf
    rw [if_neg (by omega), if_neg (by omega), if_pos (by omega),
      ofNat_eq_of_toNat (b := b₀) (by omega), ofNat_eq_of_toNat (b := b₁) (by omega),
      ofNat_eq_of_toNat (b := b₂) (by omega)]

theorem bytesOf_four (found : leadByte? b₀.toNat = some lead) (one : lead.following ≠ 1)
    (two : lead.following ≠ 2) (second : ¬ (b₁.toNat < lead.low ∨ lead.high < b₁.toNat))
    (third : isContinuation b₂.toNat) (fourth : isContinuation b₃.toNat) :
    let v := 64 * (64 * (64 * lead.bits + (b₁.toNat - 0x80)) + (b₂.toNat - 0x80)) +
      (b₃.toNat - 0x80)
    v.isValidChar ∧ bytesOf v = [b₀, b₁, b₂, b₃] := by
  intro v
  rw [isContinuation_iff] at third fourth
  have range : 0x10000 ≤ v ∧ v < 0x110000 ∧ v / 262144 + 240 = b₀.toNat ∧
      v / 4096 % 64 + 128 = b₁.toNat ∧ v / 64 % 64 + 128 = b₂.toNat ∧
      v % 64 + 128 = b₃.toNat := by
    unfold leadByte? at found
    repeat' split at found
    all_goals cases found
    all_goals
      dsimp only [v] at *
      omega
  constructor
  · exact .inr (by omega)
  · unfold bytesOf
    rw [if_neg (by omega), if_neg (by omega), if_neg (by omega),
      ofNat_eq_of_toNat (b := b₀) (by omega), ofNat_eq_of_toNat (b := b₁) (by omega),
      ofNat_eq_of_toNat (b := b₂) (by omega), ofNat_eq_of_toNat (b := b₃) (by omega)]

end

theorem map_ofNat_congr {v w : Nat} (same : v = w) (decoded : Except Utf8Error (List Char)) :
    decoded.map (Char.ofNat v :: ·) = decoded.map (Char.ofNat w :: ·) := by
  rw [same]

theorem flatMap_of_decoded {v : Nat} (bytes : List UInt8) {rest : List UInt8}
    {decoded : Except Utf8Error (List Char)} {cs : List Char}
    (ok : decoded.map (Char.ofNat v :: ·) = .ok cs)
    (later : forall {tail}, decoded = .ok tail -> rest = tail.flatMap String.utf8EncodeChar)
    (spelled : v.isValidChar ∧ bytesOf v = bytes) :
    bytes ++ rest = cs.flatMap String.utf8EncodeChar := by
  cases decoded with
  | error => cases ok
  | ok tail =>
      cases ok
      rw [List.flatMap_cons, utf8EncodeChar_ofNat spelled.1, spelled.2, ← later rfl]

theorem eq_of_decodeUtf8From {index : Nat} {bytes : List UInt8} {cs : List Char}
    (h : decodeUtf8From index bytes = .ok cs) : bytes = cs.flatMap String.utf8EncodeChar := by
  fun_induction decodeUtf8From index bytes generalizing cs with
  | case1 =>
      cases h
      rfl
  | case2 index b₀ rest small ih =>
      apply flatMap_of_decoded [b₀] h ih
      constructor
      · exact .inl (by omega)
      · unfold bytesOf
        rw [if_pos (by omega), ofNat_eq_of_toNat rfl]
  | case6 index b₀ large lead b₁ rest found upper second one =>
      rename_i ih
      exact flatMap_of_decoded [b₀, b₁] h ih (bytesOf_two found one second)
  | case9 index b₀ large lead b₁ found upper second one b₂ rest middle third two =>
      rename_i ih
      exact flatMap_of_decoded [b₀, b₁, b₂] h ih
        (bytesOf_three found two second (by simpa using third))
  | case12 index b₀ large lead b₁ found upper second one b₂ middle third two b₃ rest fourth =>
      rename_i ih
      exact flatMap_of_decoded [b₀, b₁, b₂, b₃] h ih
        (bytesOf_four found one two second (by simpa using third) (by simpa using fourth))
  | _ => cases h

/-! ## What the bytes spell is read -/

section

variable {b₀ b₁ b₂ b₃ : UInt8} {lead : LeadByte} (rest : List UInt8) (index : Nat)

theorem decodeUtf8From_one (small : b₀.toNat < 0x80) :
    decodeUtf8From index (b₀ :: rest) =
      (decodeUtf8From (index + 1) rest).map (Char.ofNat b₀.toNat :: ·) := by
  conv_lhs => unfold decodeUtf8From
  exact if_pos small

theorem decodeUtf8From_two (large : ¬ b₀.toNat < 0x80) (found : leadByte? b₀.toNat = some lead)
    (one : lead.following = 1) (second : ¬ (b₁.toNat < lead.low ∨ lead.high < b₁.toNat)) :
    decodeUtf8From index (b₀ :: b₁ :: rest) =
      (decodeUtf8From (index + 2) rest).map
        (Char.ofNat (64 * lead.bits + (b₁.toNat - 0x80)) :: ·) := by
  conv_lhs => unfold decodeUtf8From
  simp only [large, found, second, one, if_true, if_false]

theorem decodeUtf8From_three (large : ¬ b₀.toNat < 0x80)
    (found : leadByte? b₀.toNat = some lead) (two : lead.following = 2)
    (second : ¬ (b₁.toNat < lead.low ∨ lead.high < b₁.toNat))
    (third : isContinuation b₂.toNat) :
    decodeUtf8From index (b₀ :: b₁ :: b₂ :: rest) =
      (decodeUtf8From (index + 3) rest).map
        (Char.ofNat (64 * (64 * lead.bits + (b₁.toNat - 0x80)) + (b₂.toNat - 0x80)) :: ·) := by
  conv_lhs => unfold decodeUtf8From
  simp [large, found, second, two, third]

theorem decodeUtf8From_four (large : ¬ b₀.toNat < 0x80)
    (found : leadByte? b₀.toNat = some lead) (three : lead.following = 3)
    (second : ¬ (b₁.toNat < lead.low ∨ lead.high < b₁.toNat))
    (third : isContinuation b₂.toNat) (fourth : isContinuation b₃.toNat) :
    decodeUtf8From index (b₀ :: b₁ :: b₂ :: b₃ :: rest) =
      (decodeUtf8From (index + 4) rest).map
        (Char.ofNat (64 * (64 * (64 * lead.bits + (b₁.toNat - 0x80)) + (b₂.toNat - 0x80)) +
          (b₃.toNat - 0x80)) :: ·) := by
  conv_lhs => unfold decodeUtf8From
  simp [large, found, second, three, third, fourth]

end

theorem leadByte?_two {bits : Nat} (low : 2 ≤ bits) (high : bits < 32) :
    leadByte? (bits + 0xC0) = some ⟨1, bits, 0x80, 0xBF⟩ := by
  unfold leadByte?
  rw [if_pos (by omega), Nat.add_sub_cancel]

theorem leadByte?_three {bits : Nat} (high : bits < 16) :
    leadByte? (bits + 0xE0) =
      some ⟨2, bits, if bits = 0 then 0xA0 else 0x80, if bits = 13 then 0x9F else 0xBF⟩ := by
  interval_cases bits <;> rfl

theorem leadByte?_four {bits : Nat} (high : bits < 5) :
    leadByte? (bits + 0xF0) =
      some ⟨3, bits, if bits = 0 then 0x90 else 0x80, if bits = 4 then 0x8F else 0xBF⟩ := by
  interval_cases bits <;> rfl

theorem decodeUtf8From_bytesOf {v : Nat} (valid : v.isValidChar) (rest : List UInt8)
    (index : Nat) : exists next, decodeUtf8From index (bytesOf v ++ rest) =
      (decodeUtf8From next rest).map (Char.ofNat v :: ·) := by
  unfold Nat.isValidChar at valid
  unfold bytesOf
  split
  · have b₀ : (UInt8.ofNat v).toNat = v := by simp; omega
    refine ⟨index + 1, (decodeUtf8From_one rest index (by omega)).trans ?_⟩
    rw [b₀]
  split
  · have b₀ : (UInt8.ofNat (v / 64 % 32 + 192)).toNat = v / 64 + 192 := by simp; omega
    have b₁ : (UInt8.ofNat (v % 64 + 128)).toNat = v % 64 + 128 := by simp; omega
    refine ⟨index + 2, (decodeUtf8From_two rest index (by omega)
      (b₀ ▸ leadByte?_two (by omega) (by omega)) rfl (by dsimp only; omega)).trans ?_⟩
    exact map_ofNat_congr (by dsimp only; omega) _
  split
  · have b₀ : (UInt8.ofNat (v / 4096 % 16 + 224)).toNat = v / 4096 + 224 := by simp; omega
    have b₁ : (UInt8.ofNat (v / 64 % 64 + 128)).toNat = v / 64 % 64 + 128 := by simp; omega
    have b₂ : (UInt8.ofNat (v % 64 + 128)).toNat = v % 64 + 128 := by simp; omega
    refine ⟨index + 3, (decodeUtf8From_three rest index (by omega)
      (b₀ ▸ leadByte?_three (by omega)) rfl (by dsimp only; split <;> split <;> omega)
      (isContinuation_iff.2 (by omega))).trans ?_⟩
    exact map_ofNat_congr (by dsimp only; omega) _
  · have b₀ : (UInt8.ofNat (v / 262144 % 8 + 240)).toNat = v / 262144 + 240 := by simp; omega
    have b₁ : (UInt8.ofNat (v / 4096 % 64 + 128)).toNat = v / 4096 % 64 + 128 := by simp; omega
    have b₂ : (UInt8.ofNat (v / 64 % 64 + 128)).toNat = v / 64 % 64 + 128 := by simp; omega
    have b₃ : (UInt8.ofNat (v % 64 + 128)).toNat = v % 64 + 128 := by simp; omega
    refine ⟨index + 4, (decodeUtf8From_four rest index (by omega)
      (b₀ ▸ leadByte?_four (by omega)) rfl (by dsimp only; split <;> split <;> omega)
      (isContinuation_iff.2 (by omega)) (isContinuation_iff.2 (by omega))).trans ?_⟩
    exact map_ofNat_congr (by dsimp only; omega) _

theorem decodeUtf8From_flatMap (cs : List Char) (index : Nat) :
    decodeUtf8From index (cs.flatMap String.utf8EncodeChar) = .ok cs := by
  induction cs generalizing index with
  | nil => rfl
  | cons c cs ih =>
      obtain ⟨next, read⟩ := decodeUtf8From_bytesOf c.valid (cs.flatMap String.utf8EncodeChar) index
      rw [List.flatMap_cons, utf8EncodeChar_eq, read, ih]
      exact congrArg (fun c => Except.ok (c :: cs)) (Char.ofNat_toNat c)

/-! ## Both together -/

theorem decodeUtf8_eq_ok_iff {bytes : List UInt8} {cs : List Char} :
    decodeUtf8 bytes = .ok cs ↔ bytes = cs.flatMap String.utf8EncodeChar := by
  constructor
  · exact eq_of_decodeUtf8From
  · rintro rfl
    exact decodeUtf8From_flatMap cs 0

theorem toList_loop (bytes : ByteArray) (index : Nat) (read : List UInt8) :
    ByteArray.toList.loop bytes index read = read.reverse ++ bytes.data.toList.drop index := by
  generalize left : bytes.size - index = n
  induction n generalizing index read with
  | zero =>
      have beyond : ¬ index < bytes.size := by omega
      rw [ByteArray.toList.loop, if_neg beyond, List.drop_eq_nil_of_le, List.append_nil]
      exact Nat.le_of_not_lt beyond
  | succ n ih =>
      have within : index < bytes.size := by omega
      have listed : index < bytes.data.toList.length := within
      have byte : bytes.get! index = bytes.data.toList[index] :=
        getElem!_pos bytes.data index within
      rw [ByteArray.toList.loop, if_pos within, ih _ _ (by omega),
        List.drop_eq_getElem_cons listed, byte]
      simp

theorem encodeUtf8_eq (s : String) : encodeUtf8 s = s.toList.flatMap String.utf8EncodeChar := by
  show s.toByteArray.toList = _
  rw [← String.utf8Encode_toList]
  unfold ByteArray.toList
  rw [toList_loop]
  exact List.toList_data_toByteArray

theorem decodeUtf8_encodeUtf8 (s : String) : decodeUtf8 (encodeUtf8 s) = .ok s.toList :=
  decodeUtf8_eq_ok_iff.2 (encodeUtf8_eq s)

end Text
end RobotConsole
