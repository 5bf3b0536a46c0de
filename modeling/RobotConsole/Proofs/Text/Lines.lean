import RobotConsole.Proofs.Text.Utf8
import RobotConsole.Text.Blank
import RobotConsole.Text.Lines

/-!
# Splitting into lines

The pieces of a list that grows at its end, the lines of a text and those of its bytes, and
what trimming makes of the end of a line.
-/

namespace RobotConsole
namespace Text

section

variable {α : Type} [DecidableEq α] (mark : α)

def lastPiece (xs : List α) : List α :=
  (xs.splitOn mark).getLast?.getD []

/-- The lines of a list that is complete: what stands behind the last mark is a line as well,
unless it is empty. -/
def linesBy (xs : List α) : List (List α) :=
  if (xs.splitOn mark).getLast? = some [] then (xs.splitOn mark).dropLast else xs.splitOn mark

theorem splitAll_eq_splitOn (xs : List α) : splitAll mark xs = xs.splitOn mark := by
  induction xs with
  | nil => rfl
  | cons x xs ih =>
      rw [List.splitOn_cons_eq_if_modifyHead]
      show (if x = mark then [] :: splitAll mark xs else _) = _
      rw [ih]
      by_cases same : x = mark
      · rw [if_pos same, if_pos (by simpa using same)]
      · rw [if_neg same, if_neg (by simpa using same)]
        obtain ⟨piece, pieces, split⟩ := List.exists_cons_of_ne_nil (List.splitOn_ne_nil mark xs)
        rw [split]
        rfl

theorem not_mem_of_mem_splitOn {xs piece : List α} (mem : piece ∈ xs.splitOn mark) :
    mark ∉ piece := by
  induction xs generalizing piece with
  | nil =>
      cases List.mem_singleton.1 mem
      exact List.not_mem_nil
  | cons x xs ih =>
      rw [List.splitOn_cons_eq_if_modifyHead] at mem
      split at mem
      · rcases List.mem_cons.1 mem with rfl | mem
        · exact List.not_mem_nil
        · exact ih mem
      · rename_i other
        obtain ⟨first, pieces, split⟩ := List.exists_cons_of_ne_nil (List.splitOn_ne_nil mark xs)
        rw [split] at mem ih
        rcases List.mem_cons.1 mem with rfl | mem
        · have inside := ih List.mem_cons_self
          rintro (_ | ⟨_, mem⟩)
          · simp at other
          · exact inside mem
        · exact ih (List.mem_cons_of_mem _ mem)

theorem splitOn_cons_of_ne {x : α} (other : x ≠ mark) (xs : List α) :
    (x :: xs).splitOn mark = (xs.splitOn mark).modifyHead (x :: ·) := by
  rw [List.splitOn_cons_eq_if_modifyHead, if_neg (by simpa using other)]

theorem splitOn_append_of_not_mem {xs : List α} (plain : mark ∉ xs) (ys : List α) :
    (xs ++ ys).splitOn mark = (ys.splitOn mark).modifyHead (xs ++ ·) := by
  induction xs with
  | nil =>
      rw [List.nil_append]
      cases ys.splitOn mark <;> rfl
  | cons x xs ih =>
      have other : x ≠ mark := by
        rintro rfl
        exact plain List.mem_cons_self
      have later : mark ∉ xs := fun mem => plain (List.mem_cons_of_mem x mem)
      rw [List.cons_append, splitOn_cons_of_ne mark other, ih later]
      cases ys.splitOn mark <;> rfl

theorem splitOn_append (xs ys : List α) :
    (xs ++ ys).splitOn mark =
      (xs.splitOn mark).dropLast ++ (lastPiece mark xs ++ ys).splitOn mark := by
  unfold lastPiece
  induction xs with
  | nil => rfl
  | cons x xs ih =>
      obtain ⟨piece, pieces, split⟩ := List.exists_cons_of_ne_nil (List.splitOn_ne_nil mark xs)
      by_cases same : x = mark
      · subst same
        have empty (zs : List α) : (x :: zs).splitOn x = [] :: zs.splitOn x :=
          List.splitOn_append_cons_self [] zs
        rw [List.cons_append, empty, empty, ih, split]
        rfl
      · rw [List.cons_append, splitOn_cons_of_ne mark same, splitOn_cons_of_ne mark same, ih, split]
        cases pieces with
        | nil => simp [splitOn_cons_of_ne mark same]
        | cons next pieces => rfl

theorem linesBy_eq_dropLast_append (xs : List α) :
    linesBy mark xs =
      (xs.splitOn mark).dropLast ++ if lastPiece mark xs = [] then [] else [lastPiece mark xs] := by
  obtain ⟨pieces, piece, split⟩ :=
    (List.eq_nil_or_concat (xs.splitOn mark)).resolve_left (List.splitOn_ne_nil mark xs)
  unfold linesBy lastPiece
  by_cases empty : piece = [] <;> simp [split, empty]

end

/-! ## Lines of texts and of their bytes -/

theorem filterMap_lines {α : Type} {f : List Char -> Option α}
    (blind : forall line, f (dropReturn line) = f line) (cs : List Char) :
    (lines cs).filterMap f = (linesBy '\n' cs).filterMap f := by
  have ended : f ∘ dropReturn = f := funext blind
  rw [linesBy_eq_dropLast_append, List.filterMap_append]
  unfold lines lastPiece
  rw [splitAll_eq_splitOn, List.filterMap_append, List.filterMap_map, ended]

theorem le_of_mem_bytesOf {v : Nat} (large : 0x80 ≤ v) {b : UInt8} (mem : b ∈ bytesOf v) :
    0x80 ≤ b.toNat := by
  have byte {n : Nat} (h : 0x80 ≤ n) (h' : n < 0x100) : 0x80 ≤ (UInt8.ofNat n).toNat := by
    rw [UInt8.toNat_ofNat_of_lt' h']
    exact h
  unfold bytesOf at mem
  rw [if_neg (by omega)] at mem
  split at mem
  · simp only [List.mem_cons, List.not_mem_nil, or_false] at mem
    rcases mem with rfl | rfl <;> exact byte (by omega) (by omega)
  · split at mem <;> simp only [List.mem_cons, List.not_mem_nil, or_false] at mem
    · rcases mem with rfl | rfl | rfl <;> exact byte (by omega) (by omega)
    · rcases mem with rfl | rfl | rfl | rfl <;> exact byte (by omega) (by omega)

theorem eq_feed_of_mem_utf8EncodeChar {c : Char} (mem : 10 ∈ String.utf8EncodeChar c) :
    c = '\n' := by
  rw [utf8EncodeChar_eq] at mem
  have small : c.val.toNat < 0x80 := by
    apply Nat.lt_of_not_le
    intro large
    exact absurd (le_of_mem_bytesOf large mem) (by decide)
  unfold bytesOf at mem
  rw [if_pos (by omega)] at mem
  have number : 10 = (UInt8.ofNat c.val.toNat).toNat :=
    congrArg UInt8.toNat (List.mem_singleton.1 mem)
  rw [UInt8.toNat_ofNat_of_lt' (Nat.lt_trans small (by decide))] at number
  exact Char.ext (UInt32.toNat_inj.1 number.symm)

theorem splitOn_flatMap (cs : List Char) :
    (cs.flatMap String.utf8EncodeChar).splitOn 10 =
      (cs.splitOn '\n').map fun line => line.flatMap String.utf8EncodeChar := by
  induction cs with
  | nil => rfl
  | cons c cs ih =>
      by_cases feed : c = '\n'
      · subst feed
        have empty : ('\n' :: cs).splitOn '\n' = [] :: cs.splitOn '\n' :=
          List.splitOn_append_cons_self [] cs
        have bytes : (10 :: cs.flatMap String.utf8EncodeChar).splitOn 10 =
            [] :: (cs.flatMap String.utf8EncodeChar).splitOn 10 :=
          List.splitOn_append_cons_self [] _
        rw [empty, List.map_cons, ← ih]
        exact bytes
      · have plain : 10 ∉ String.utf8EncodeChar c :=
          fun mem => feed (eq_feed_of_mem_utf8EncodeChar mem)
        rw [List.flatMap_cons, splitOn_append_of_not_mem 10 plain, ih, splitOn_cons_of_ne '\n' feed]
        cases cs.splitOn '\n' with
        | nil => rfl
        | cons piece pieces => simp

theorem flatMap_utf8EncodeChar_eq_nil {cs : List Char} :
    cs.flatMap String.utf8EncodeChar = [] ↔ cs = [] := by
  cases cs with
  | nil => simp
  | cons c cs => simp [String.utf8EncodeChar_ne_nil]

theorem linesBy_flatMap (cs : List Char) :
    linesBy 10 (cs.flatMap String.utf8EncodeChar) =
      (linesBy '\n' cs).map fun line => line.flatMap String.utf8EncodeChar := by
  unfold linesBy
  rw [splitOn_flatMap]
  have last : (((cs.splitOn '\n').map fun line => line.flatMap String.utf8EncodeChar).getLast? =
      some []) ↔ (cs.splitOn '\n').getLast? = some [] := by
    rw [List.getLast?_map]
    cases (cs.splitOn '\n').getLast? with
    | none => simp
    | some line => simpa using flatMap_utf8EncodeChar_eq_nil
  split
  · rw [if_pos (last.1 ‹_›), List.map_dropLast]
  · rw [if_neg fun empty => ‹¬ _› (last.2 empty)]

/-! ## The end of a line -/

theorem decodeUtf8_append_feed {bytes : List UInt8} {cs : List Char} :
    decodeUtf8 (bytes ++ [10]) = .ok cs ↔
      exists line, decodeUtf8 bytes = .ok line ∧ cs = line ++ ['\n'] := by
  simp only [decodeUtf8_eq_ok_iff]
  constructor
  · intro spelled
    rcases List.eq_nil_or_concat cs with rfl | ⟨line, c, rfl⟩
    · simp at spelled
    · rw [List.concat_eq_append] at spelled ⊢
      rw [List.flatMap_append, List.flatMap_singleton] at spelled
      have feed : c = '\n' := by
        apply eq_feed_of_mem_utf8EncodeChar
        have last := congrArg List.getLast? spelled
        have ends := List.getLast?_eq_some_getLast (String.utf8EncodeChar_ne_nil (c := c))
        rw [List.getLast?_concat, List.getLast?_append, ends] at last
        have byte := Option.some.inj last
        exact byte ▸ List.getLast_mem _
      subst feed
      exact ⟨line, List.append_cancel_right spelled, rfl⟩
  · rintro ⟨line, rfl, rfl⟩
    rw [List.flatMap_append]
    rfl

theorem trimEnd_append_blank {c : Char} (blank : isBlank c) (cs : List Char) :
    trimEnd (cs ++ [c]) = trimEnd cs := by
  unfold trimEnd
  simp [blank]

theorem trimChars_append_blank {c : Char} (blank : isBlank c) (cs : List Char) :
    trimChars (cs ++ [c]) = trimChars cs := by
  unfold trimChars trimStart
  induction cs with
  | nil => simp [trimEnd, blank]
  | cons d cs ih =>
      rw [List.cons_append, List.dropWhile_cons, List.dropWhile_cons]
      split
      · exact ih
      · exact trimEnd_append_blank blank (d :: cs)

theorem trimChars_dropReturn (line : List Char) : trimChars (dropReturn line) = trimChars line := by
  unfold dropReturn
  split
  case isTrue ends =>
    obtain ⟨front, rfl⟩ := List.getLast?_eq_some_iff.1 ends
    rw [List.dropLast_concat, trimChars_append_blank (by decide)]
  case isFalse => rfl

end Text
end RobotConsole
