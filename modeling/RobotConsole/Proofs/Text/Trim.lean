import RobotConsole.Text.Blank

/-!
# Trimming

A text is trimmed to a part of it that neither begins nor ends with a blank, if there are only
blanks before and after this part.
-/

namespace RobotConsole
namespace Text

def AllBlank (cs : List Char) : Prop :=
  forall c, c ∈ cs -> isBlank c = true

/-- A text that has blanks neither at its beginning nor at its end. -/
structure Trimmed (cs : List Char) : Prop where
  nonempty : cs ≠ []
  front : forall c, cs.head? = some c -> isBlank c = false
  back : forall c, cs.getLast? = some c -> isBlank c = false

theorem trimmed_of_visible {cs : List Char} (nonempty : cs ≠ [])
    (visible : forall c, c ∈ cs -> isBlank c = false) : Trimmed cs where
  nonempty := nonempty
  front c first := visible c (List.mem_of_mem_head? first)
  back c last := visible c (List.mem_of_getLast? last)

section

variable {cs before body after : List Char}

theorem allBlank_takeWhile (cs : List Char) : AllBlank (cs.takeWhile isBlank) :=
  fun _ mem => List.all_eq_true.1 List.all_takeWhile _ mem

theorem AllBlank.reverse (blank : AllBlank cs) : AllBlank cs.reverse :=
  fun c mem => blank c (List.mem_reverse.1 mem)

theorem dropWhile_append (blank : AllBlank before)
    (front : forall c, body.head? = some c -> isBlank c = false) :
    (before ++ body).dropWhile isBlank = body := by
  rw [List.dropWhile_append_of_pos blank]
  cases body with
  | nil => rfl
  | cons c cs => rw [List.dropWhile_cons, if_neg (by simp [front c rfl])]

theorem Trimmed.trimChars_append (trimmed : Trimmed body) (ahead : AllBlank before)
    (behind : AllBlank after) : trimChars (before ++ body ++ after) = body := by
  have front (c : Char) (first : (body ++ after).head? = some c) : isBlank c = false := by
    obtain ⟨d, ds, rfl⟩ := List.exists_cons_of_ne_nil trimmed.nonempty
    exact trimmed.front c first
  have back (c : Char) (first : body.reverse.head? = some c) : isBlank c = false := by
    rw [List.head?_reverse] at first
    exact trimmed.back c first
  unfold trimChars trimStart trimEnd
  rw [List.append_assoc, dropWhile_append ahead front, List.reverse_append,
    dropWhile_append behind.reverse back, List.reverse_reverse]

theorem exists_append_trimChars (cs : List Char) :
    exists before after, AllBlank before ∧ AllBlank after ∧
      cs = before ++ trimChars cs ++ after := by
  have back : trimStart cs =
      trimChars cs ++ ((trimStart cs).reverse.takeWhile isBlank).reverse := by
    unfold trimChars trimEnd
    rw [← List.reverse_append, List.takeWhile_append_dropWhile, List.reverse_reverse]
  refine ⟨cs.takeWhile isBlank, ((trimStart cs).reverse.takeWhile isBlank).reverse,
    allBlank_takeWhile cs, (allBlank_takeWhile _).reverse, ?_⟩
  rw [List.append_assoc, ← back]
  exact List.takeWhile_append_dropWhile.symm

theorem Trimmed.trimChars_eq_iff (trimmed : Trimmed body) :
    trimChars cs = body ↔ exists before after, AllBlank before ∧ AllBlank after ∧
      cs = before ++ body ++ after := by
  constructor
  · rintro rfl
    exact exists_append_trimChars cs
  · rintro ⟨before, after, ahead, behind, rfl⟩
    exact trimmed.trimChars_append ahead behind

theorem getLast?_trimChars {c : Char} (last : cs.getLast? = some c) (visible : isBlank c = false) :
    (trimChars cs).getLast? = some c := by
  have inside {ds : List Char} (blank : AllBlank ds) : ds.getLast? ≠ some c := by
    intro last
    rw [blank c (List.mem_of_getLast? last)] at visible
    cases visible
  obtain ⟨before, after, ahead, behind, text⟩ := exists_append_trimChars cs
  rw [text, List.getLast?_append, List.getLast?_append, Option.or_eq_some_iff,
    Option.or_eq_some_iff] at last
  rcases last with last | ⟨-, last | ⟨-, last⟩⟩
  · exact absurd last (inside behind)
  · exact last
  · exact absurd last (inside ahead)

end

/-! ## Endings -/

theorem withoutSuffix?_eq_some_iff {suffix cs front : List Char} :
    withoutSuffix? suffix cs = some front ↔ cs = front ++ suffix := by
  unfold withoutSuffix?
  constructor
  · intro cut
    split at cut
    · rename_i ends
      cases cut
      obtain ⟨rest, rfl⟩ := List.isSuffixOf_iff_suffix.1 ends
      simp
    · cases cut
  · rintro rfl
    rw [if_pos (List.isSuffixOf_iff_suffix.2 (List.suffix_append front suffix))]
    simp

end Text
end RobotConsole
