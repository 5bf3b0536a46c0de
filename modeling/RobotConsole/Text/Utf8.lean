/-!
# Decoding UTF-8

Bytes are read as UTF-8 in its strict form: shortest encodings only, no
surrogates, nothing above `U+10FFFF`. The fault reported is the first one, with
the index at which the faulty sequence starts and, unless the bytes end too
early, its length.
-/

namespace RobotConsole
namespace Text

structure Utf8Error where
  validBytes : Nat
  /-- How many bytes are faulty; unknown when the bytes end within a character. -/
  length? : Option Nat
  deriving DecidableEq, Repr

def Utf8Error.message (e : Utf8Error) : String :=
  match e.length? with
  | some n =>
      "invalid utf-8 sequence of " ++ toString n ++ " bytes from index " ++ toString e.validBytes
  | none => "incomplete utf-8 byte sequence from index " ++ toString e.validBytes

/-- A byte that starts a longer sequence: how many bytes follow it, what it contributes to the
code point, and the range that the next byte has to be in. -/
structure LeadByte where
  following : Nat
  bits : Nat
  low : Nat
  high : Nat

def leadByte? (b : Nat) : Option LeadByte :=
  if 0xC2 ≤ b ∧ b ≤ 0xDF then some ⟨1, b - 0xC0, 0x80, 0xBF⟩
  else if b = 0xE0 then some ⟨2, 0, 0xA0, 0xBF⟩
  else if b = 0xED then some ⟨2, 0xD, 0x80, 0x9F⟩
  else if 0xE1 ≤ b ∧ b ≤ 0xEF then some ⟨2, b - 0xE0, 0x80, 0xBF⟩
  else if b = 0xF0 then some ⟨3, 0, 0x90, 0xBF⟩
  else if 0xF1 ≤ b ∧ b ≤ 0xF3 then some ⟨3, b - 0xF0, 0x80, 0xBF⟩
  else if b = 0xF4 then some ⟨3, 4, 0x80, 0x8F⟩
  else none

def isContinuation (b : Nat) : Bool :=
  0x80 ≤ b && b ≤ 0xBF

def decodeUtf8From (index : Nat) : List UInt8 -> Except Utf8Error (List Char)
  | [] => .ok []
  | b₀ :: rest =>
      if b₀.toNat < 0x80 then
        (decodeUtf8From (index + 1) rest).map (Char.ofNat b₀.toNat :: ·)
      else
        match leadByte? b₀.toNat, rest with
        | none, _ => .error ⟨index, some 1⟩
        | some _, [] => .error ⟨index, none⟩
        | some lead, b₁ :: rest =>
            let upper := 64 * lead.bits + (b₁.toNat - 0x80)
            if b₁.toNat < lead.low ∨ lead.high < b₁.toNat then .error ⟨index, some 1⟩
            else if lead.following = 1 then
              (decodeUtf8From (index + 2) rest).map (Char.ofNat upper :: ·)
            else
              match rest with
              | [] => .error ⟨index, none⟩
              | b₂ :: rest =>
                  let middle := 64 * upper + (b₂.toNat - 0x80)
                  if !isContinuation b₂.toNat then .error ⟨index, some 2⟩
                  else if lead.following = 2 then
                    (decodeUtf8From (index + 3) rest).map (Char.ofNat middle :: ·)
                  else
                    match rest with
                    | [] => .error ⟨index, none⟩
                    | b₃ :: rest =>
                        if !isContinuation b₃.toNat then .error ⟨index, some 3⟩
                        else
                          (decodeUtf8From (index + 4) rest).map
                            (Char.ofNat (64 * middle + (b₃.toNat - 0x80)) :: ·)

def decodeUtf8 (bytes : List UInt8) : Except Utf8Error (List Char) :=
  decodeUtf8From 0 bytes

def encodeUtf8 (s : String) : List UInt8 :=
  s.toUTF8.toList

end Text
end RobotConsole
