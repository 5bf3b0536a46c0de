import Mathlib.Data.List.DropRight
import RobotConsole.Proofs.Json.Numbers
import RobotConsole.Proofs.Json.Strings
import RobotConsole.Proofs.Json.Values

/-!
# Texts of values

A text spells a value out if it is made of the texts of its parts, with blanks between them or
without. A reader that has room for the value reads it off any such text.
-/

namespace RobotConsole
namespace Json

open Draft (isSpace skipSpace)

def Blank (cs : List Char) : Prop :=
  forall c, c ∈ cs -> isSpace c = true

theorem blank_nil : Blank [] :=
  nofun

/-- A text with blanks around it. -/
inductive Around (cs : List Char) : List Char -> Prop where
  | intro {before after : List Char} (ahead : Blank before) (behind : Blank after) :
      Around cs (before ++ cs ++ after)

theorem Around.ahead {before : List Char} (ahead : Blank before) (cs : List Char) :
    Around cs (before ++ cs) := by
  have around : Around cs (before ++ cs ++ []) := .intro ahead blank_nil
  rw [List.append_nil] at around
  exact around

theorem Around.self (cs : List Char) : Around cs cs :=
  .ahead blank_nil cs

theorem Around.length_le {cs ds : List Char} (around : Around cs ds) : cs.length ≤ ds.length := by
  cases around with
  | intro ahead behind =>
      rw [List.length_append, List.length_append]
      omega

mutual

/-- The text is one of the value. -/
inductive Spells : List Char -> Json -> Prop where
  | null : Spells "null".toList null
  | bool (b : Bool) : Spells (if b then "true" else "false").toList (bool b)
  | number (n : Draft.Numeral) {j : Json} (held : n.token.draft = .ofJson j) : Spells n.chars j
  | string (s : String) : Spells (quoted s) (string s)
  | noItems {gap : List Char} (blank : Blank gap) : Spells ('[' :: (gap ++ [']'])) (array [])
  | array {cs : List Char} {items : List Json} (spelled : SpellsItems cs items) :
      Spells ('[' :: (cs ++ [']'])) (array items)
  | noMembers {gap : List Char} (blank : Blank gap) : Spells ('{' :: (gap ++ ['}'])) (object [])
  | object {cs : List Char} {members : List (String × Json)} (spelled : SpellsMembers cs members) :
      Spells ('{' :: (cs ++ ['}'])) (object members)

inductive SpellsItems : List Char -> List Json -> Prop where
  | last {cs ds : List Char} {item : Json} (spelled : Spells cs item) (around : Around cs ds) :
      SpellsItems ds [item]
  | more {cs ds es : List Char} {item : Json} {items : List Json} (spelled : Spells cs item)
      (around : Around cs ds) (others : SpellsItems es items) :
      SpellsItems (ds ++ ',' :: es) (item :: items)

inductive SpellsMembers : List Char -> List (String × Json) -> Prop where
  | last {ns cs ds : List Char} {name : String} {value : Json} (named : Around (quoted name) ns)
      (spelled : Spells cs value) (around : Around cs ds) :
      SpellsMembers (ns ++ ':' :: ds) [(name, value)]
  | more {ns cs ds es : List Char} {name : String} {value : Json}
      {members : List (String × Json)} (named : Around (quoted name) ns)
      (spelled : Spells cs value) (around : Around cs ds) (others : SpellsMembers es members) :
      SpellsMembers (ns ++ ':' :: ds ++ ',' :: es) ((name, value) :: members)

end

namespace Draft

open Numeric (isDigit)

/-! ## Blanks -/

section

variable {cs ds rest : List Char}

theorem skipSpace_cons {c : Char} (visible : isSpace c = false) (rest : List Char) :
    skipSpace (c :: rest) = c :: rest := by
  unfold skipSpace
  rw [List.dropWhile_cons, if_neg (by simp [visible])]

theorem skipSpace_append (blank : Blank cs) (rest : List Char) :
    skipSpace (cs ++ rest) = skipSpace rest :=
  List.dropWhile_append_of_pos blank

theorem skipSpace_skipSpace (cs : List Char) : skipSpace (skipSpace cs) = skipSpace cs :=
  List.dropWhile_idempotent isSpace cs

theorem readValue_congr (same : skipSpace cs = skipSpace ds) (fuel room : Nat) :
    readValue fuel room cs = readValue fuel room ds := by
  cases fuel with
  | zero => rw [readValue, readValue]
  | succ fuel => rw [readValue, readValue, same]

theorem readItems_congr (same : skipSpace cs = skipSpace ds) (fuel room : Nat) :
    readItems fuel room cs = readItems fuel room ds := by
  cases fuel with
  | zero => rw [readItems, readItems]
  | succ fuel => rw [readItems, readItems, readValue_congr same]

theorem readMembers_congr (same : skipSpace cs = skipSpace ds) (fuel room : Nat) :
    readMembers fuel room cs = readMembers fuel room ds := by
  cases fuel with
  | zero => rw [readMembers, readMembers]
  | succ fuel => rw [readMembers, readMembers, same]

theorem Ends.blank_append (ends : Ends rest) (blank : Blank cs) : Ends (cs ++ rest) := by
  cases cs with
  | nil => exact ends
  | cons c cs => exact ends_cons (.inl (blank c List.mem_cons_self)) _

end

/-! ## How texts begin -/

theorem exists_cons_of_spells {cs : List Char} {j : Json} (spelled : Spells cs j) :
    exists c rest, cs = c :: rest ∧ isSpace c = false ∧ c ≠ ']' := by
  cases spelled with
  | null => exact ⟨'n', _, rfl, rfl, by decide⟩
  | bool b =>
      cases b with
      | true => exact ⟨'t', _, rfl, rfl, by decide⟩
      | false => exact ⟨'f', _, rfl, rfl, by decide⟩
  | number n held =>
      obtain ⟨c, rest, text, first⟩ := n.exists_chars_eq
      refine ⟨c, rest, text, ?_⟩
      rcases first with rfl | digit
      · exact ⟨rfl, by decide⟩
      · refine ⟨isSpace_of_digit digit, ?_⟩
        rintro rfl
        cases digit
  | string s => exact ⟨'"', _, rfl, rfl, by decide⟩
  | noItems blank => exact ⟨'[', _, rfl, rfl, by decide⟩
  | array spelled => exact ⟨'[', _, rfl, rfl, by decide⟩
  | noMembers blank => exact ⟨'{', _, rfl, rfl, by decide⟩
  | object spelled => exact ⟨'{', _, rfl, rfl, by decide⟩

theorem skipSpace_around {cs ds : List Char} {c : Char} (around : Around (c :: cs) ds)
    (visible : isSpace c = false) (rest : List Char) :
    exists after, skipSpace (ds ++ rest) = c :: after := by
  cases around with
  | @intro before behind ahead _ =>
      rw [List.append_assoc, List.append_assoc, skipSpace_append ahead, List.cons_append,
        skipSpace_cons visible]
      exact ⟨_, rfl⟩

theorem skipSpace_items {cs : List Char} {items : List Json} (spelled : SpellsItems cs items)
    (rest : List Char) : exists c after, skipSpace (cs ++ rest) = c :: after ∧ c ≠ ']' := by
  cases spelled with
  | last item around =>
      obtain ⟨c, cs, rfl, visible, other⟩ := exists_cons_of_spells item
      obtain ⟨after, front⟩ := skipSpace_around around visible rest
      exact ⟨c, after, front, other⟩
  | @more _ ds es _ _ item around others =>
      obtain ⟨c, cs, rfl, visible, other⟩ := exists_cons_of_spells item
      obtain ⟨after, front⟩ := skipSpace_around around visible (',' :: es ++ rest)
      rw [List.append_assoc]
      exact ⟨c, after, front, other⟩

theorem skipSpace_members {cs : List Char} {members : List (String × Json)}
    (spelled : SpellsMembers cs members) (rest : List Char) :
    exists after, skipSpace (cs ++ rest) = '"' :: after := by
  cases spelled with
  | @last ns _ ds _ _ named _ _ =>
      rw [List.append_assoc]
      exact skipSpace_around named rfl _
  | @more ns _ ds es _ _ _ named _ _ _ =>
      rw [List.append_assoc, List.append_assoc]
      exact skipSpace_around named rfl _

/-! ## Reading the parts -/

theorem isBroken_ofJson (j : Json) : (ofJson j).isBroken = false := by
  cases j <;> rfl

theorem within_ofJson {room : Nat} (open' : 0 < room) (j : Json) :
    within room (ofJson j) = ofJson j := by
  unfold within
  rw [isBroken_ofJson, if_neg (by decide), if_neg (Nat.ne_of_gt open')]

section

variable {fuel room : Nat} {cs rest : List Char}

theorem readValue_number {c : Char} (first : c = '-' ∨ isDigit c = true) (fuel room : Nat)
    (cs : List Char) :
    readValue (fuel + 1) room (c :: cs) =
      match readToken? (c :: cs) with
      | none => (broken, [])
      | some (token, rest) => (token.draft, rest) := by
  have visible : isSpace c = false := by
    rcases first with rfl | digit
    · rfl
    · exact isSpace_of_digit digit
  have other {d : Char} (minus : d ≠ '-') (digit : isDigit d = false) : c ≠ d := by
    rintro rfl
    rcases first with same | same
    · exact minus same
    · rw [digit] at same
      cases same
  rw [readValue, skipSpace_cons visible]
  split
  all_goals first
    | rfl
    | (rename_i same
       exact absurd (List.cons.inj same).1 (other (by decide) rfl))

theorem readValue_numeral (n : Numeral) (fuel room : Nat) (ends : Ends rest) :
    readValue (fuel + 1) room (n.chars ++ rest) = (n.token.draft, rest) := by
  have token := n.readToken?_chars ends
  obtain ⟨c, cs, text, first⟩ := n.exists_chars_eq
  rw [text, List.cons_append] at token ⊢
  rw [readValue_number first, token]

theorem readValue_quoted (s : String) (fuel room : Nat) (rest : List Char) :
    readValue (fuel + 1) room (quoted s ++ rest) = (string s, rest) := by
  rw [quoted_append, readValue, skipSpace_cons rfl]
  split
  · rename_i same
    cases same
  · rename_i same
    cases same
  · rename_i same
    cases same
  · rename_i same
    cases same
    rw [readString?_quoted]
  · rename_i same
    cases same
  · rename_i same
    cases same
  · rename_i quote _ _
    exact absurd rfl (quote _)

theorem readValue_noItems (closes : skipSpace cs = ']' :: rest) :
    readValue (fuel + 1) room ('[' :: cs) = (within room (array [] .closed), rest) := by
  rw [readValue, skipSpace_cons rfl]
  conv_lhs => whnf
  rw [closes]
  rfl

theorem readValue_items {c : Char} {after : List Char} (first : skipSpace cs = c :: after)
    (other : c ≠ ']') {items : List Draft} {ending : Ending}
    (read : readItems fuel (room - 1) cs = (items, ending, rest)) :
    readValue (fuel + 1) room ('[' :: cs) = (within room (array items ending), rest) := by
  rw [← readItems_congr (skipSpace_skipSpace cs)] at read
  have inside : readValue (fuel + 1) room ('[' :: cs) =
      (within room (array (readItems fuel (room - 1) (skipSpace cs)).1
        (readItems fuel (room - 1) (skipSpace cs)).2.1),
          (readItems fuel (room - 1) (skipSpace cs)).2.2) := by
    rw [readValue, skipSpace_cons rfl]
    conv_lhs => whnf
    rw [first]
    split
    · rename_i same
      exact absurd (List.cons.inj same).1 other
    · rfl
  rw [inside, read]

theorem readValue_noMembers (closes : skipSpace cs = '}' :: rest) :
    readValue (fuel + 1) room ('{' :: cs) = (within room (object [] .closed), rest) := by
  rw [readValue, skipSpace_cons rfl]
  conv_lhs => whnf
  rw [closes]
  rfl

theorem readValue_members {after : List Char} (first : skipSpace cs = '"' :: after)
    {members : List (String × Draft)} {ending : Ending}
    (read : readMembers fuel (room - 1) cs = (members, ending, rest)) :
    readValue (fuel + 1) room ('{' :: cs) = (within room (object members ending), rest) := by
  rw [← readMembers_congr (skipSpace_skipSpace cs)] at read
  have inside : readValue (fuel + 1) room ('{' :: cs) =
      (within room (object (readMembers fuel (room - 1) (skipSpace cs)).1
        (readMembers fuel (room - 1) (skipSpace cs)).2.1),
          (readMembers fuel (room - 1) (skipSpace cs)).2.2) := by
    rw [readValue, skipSpace_cons rfl]
    conv_lhs => whnf
    rw [first]
    rfl
  rw [inside, read]

variable {value : Draft} {after : List Char}

theorem readItems_last (read : readValue fuel room cs = (value, after))
    (whole : value.isBroken = false) (closes : skipSpace after = ']' :: rest) :
    readItems (fuel + 1) room cs = ([value], .closed, rest) := by
  rw [readItems, read]
  dsimp only
  rw [whole, closes]
  rfl

theorem readItems_more {items : List Draft} {others : List Char}
    (read : readValue fuel room cs = (value, after)) (whole : value.isBroken = false)
    (goesOn : skipSpace after = ',' :: others)
    (behind : readItems fuel room others = (items, .closed, rest)) :
    readItems (fuel + 1) room cs = (value :: items, .closed, rest) := by
  rw [readItems, read]
  dsimp only
  rw [whole, goesOn]
  show (value :: (readItems fuel room others).1, (readItems fuel room others).2.1,
    (readItems fuel room others).2.2) = _
  rw [behind]

def readOthers (fuel room : Nat) (value : Draft) (rest : List Char) :
    List (String × Draft) × Ending × List Char :=
  if value.isBroken then ([], .broken, [])
  else
    match skipSpace rest with
    | '}' :: rest => ([], .closed, rest)
    | ',' :: rest => readMembers fuel room rest
    | _ => ([], .broken, [])

theorem readMembers_named {name : String} {ns : List Char} (named : Around (quoted name) ns)
    {others : List (String × Draft)} {ending : Ending}
    (read : readValue fuel room cs = (value, after))
    (behind : readOthers fuel room value after = (others, ending, rest)) :
    readMembers (fuel + 1) room (ns ++ ':' :: cs) = ((name, value) :: others, ending, rest) := by
  have first : readMembers (fuel + 1) room (ns ++ ':' :: cs) =
      ((name, (readValue fuel room cs).1) ::
          (readOthers fuel room (readValue fuel room cs).1 (readValue fuel room cs).2).1,
        (readOthers fuel room (readValue fuel room cs).1 (readValue fuel room cs).2).2) := by
    cases named with
    | @intro front back ahead behind =>
        rw [List.append_assoc, List.append_assoc, readMembers, skipSpace_append ahead,
          quoted_append, skipSpace_cons rfl]
        split
        · rename_i same
          cases same
          rw [readString?_quoted]
          dsimp only
          rw [skipSpace_append behind, skipSpace_cons rfl]
          rfl
        · rename_i other
          exact absurd rfl (other _)
  rw [first, read, behind]

theorem readMembers_last {name : String} {ns : List Char} (named : Around (quoted name) ns)
    (read : readValue fuel room cs = (value, after)) (whole : value.isBroken = false)
    (closes : skipSpace after = '}' :: rest) :
    readMembers (fuel + 1) room (ns ++ ':' :: cs) = ([(name, value)], .closed, rest) := by
  apply readMembers_named named read
  unfold readOthers
  rw [whole, closes]
  rfl

theorem readMembers_more {name : String} {ns : List Char} (named : Around (quoted name) ns)
    {members : List (String × Draft)} {others : List Char}
    (read : readValue fuel room cs = (value, after)) (whole : value.isBroken = false)
    (goesOn : skipSpace after = ',' :: others)
    (behind : readMembers fuel room others = (members, .closed, rest)) :
    readMembers (fuel + 1) room (ns ++ ':' :: cs) =
      ((name, value) :: members, .closed, rest) := by
  apply readMembers_named named read
  unfold readOthers
  rw [whole, goesOn]
  exact behind

end

/-! ## Reading texts -/

/-- The text is read as the value, with enough fuel and as many levels as it has. -/
def ReadAs (cs : List Char) (j : Json) : Prop :=
  forall fuel room rest, j.depth ≤ room -> cs.length ≤ fuel -> Ends rest ->
    readValue fuel room (cs ++ rest) = (ofJson j, rest)

def ItemsReadAs (cs : List Char) (items : List Json) : Prop :=
  forall fuel room rest, (forall item, item ∈ items -> item.depth ≤ room) -> cs.length ≤ fuel ->
    readItems (fuel + 1) room (cs ++ ']' :: rest) = (ofItems items, .closed, rest)

def MembersReadAs (cs : List Char) (members : List (String × Json)) : Prop :=
  forall fuel room rest, (forall name value, (name, value) ∈ members -> value.depth ≤ room) ->
    cs.length ≤ fuel ->
    readMembers (fuel + 1) room (cs ++ '}' :: rest) = (ofMembers members, .closed, rest)

section

variable {cs ds es ns : List Char} {j : Json} {items : List Json} {name : String}
  {members : List (String × Json)}

theorem ReadAs.around (reads : ReadAs cs j) (around : Around cs ds) {fuel room : Nat}
    {rest : List Char} (shallow : j.depth ≤ room) (enough : ds.length ≤ fuel) (ends : Ends rest) :
    exists after, readValue fuel room (ds ++ rest) = (ofJson j, after) ∧
      skipSpace after = skipSpace rest := by
  have shorter := around.length_le.trans enough
  cases around with
  | @intro before behind ahead blank =>
      refine ⟨behind ++ rest, ?_, skipSpace_append blank rest⟩
      rw [List.append_assoc, List.append_assoc, readValue_congr (skipSpace_append ahead _)]
      exact reads fuel room _ shallow shorter (ends.blank_append blank)

theorem itemsReadAs_last (reads : ReadAs cs j) (around : Around cs ds) : ItemsReadAs ds [j] := by
  intro fuel room rest shallow enough
  obtain ⟨after, read, behind⟩ := reads.around around (shallow j List.mem_cons_self) enough
    (ends_cons (.inr (.inr (.inl rfl))) rest)
  rw [skipSpace_cons rfl] at behind
  exact readItems_last read (isBroken_ofJson j) behind

theorem itemsReadAs_more (reads : ReadAs cs j) (around : Around cs ds)
    (others : ItemsReadAs es items) : ItemsReadAs (ds ++ ',' :: es) (j :: items) := by
  intro fuel room rest shallow enough
  rw [List.length_append, List.length_cons] at enough
  obtain ⟨fuel, rfl⟩ : exists n, fuel = n + 1 := ⟨fuel - 1, by omega⟩
  obtain ⟨after, read, behind⟩ := reads.around around (shallow j List.mem_cons_self)
    (show ds.length ≤ fuel + 1 by omega) (ends_cons (.inr (.inl rfl)) (es ++ ']' :: rest))
  rw [skipSpace_cons rfl] at behind
  rw [List.append_assoc, List.cons_append]
  exact readItems_more read (isBroken_ofJson j) behind <|
    others fuel room rest (fun item mem => shallow item (List.mem_cons_of_mem _ mem)) (by omega)

theorem membersReadAs_last (named : Around (quoted name) ns) (reads : ReadAs cs j)
    (around : Around cs ds) : MembersReadAs (ns ++ ':' :: ds) [(name, j)] := by
  intro fuel room rest shallow enough
  rw [List.length_append, List.length_cons] at enough
  obtain ⟨after, read, behind⟩ := reads.around around (shallow name j List.mem_cons_self)
    (show ds.length ≤ fuel by omega) (ends_cons (.inr (.inr (.inr rfl))) rest)
  rw [skipSpace_cons rfl] at behind
  rw [List.append_assoc, List.cons_append]
  exact readMembers_last named read (isBroken_ofJson j) behind

theorem membersReadAs_more (named : Around (quoted name) ns) (reads : ReadAs cs j)
    (around : Around cs ds) (others : MembersReadAs es members) :
    MembersReadAs (ns ++ ':' :: ds ++ ',' :: es) ((name, j) :: members) := by
  intro fuel room rest shallow enough
  rw [List.length_append, List.length_append, List.length_cons, List.length_cons] at enough
  obtain ⟨fuel, rfl⟩ : exists n, fuel = n + 1 := ⟨fuel - 1, by omega⟩
  obtain ⟨after, read, behind⟩ := reads.around around (shallow name j List.mem_cons_self)
    (show ds.length ≤ fuel + 1 by omega) (ends_cons (.inr (.inl rfl)) (es ++ '}' :: rest))
  rw [skipSpace_cons rfl] at behind
  rw [List.append_assoc, List.append_assoc, List.cons_append, List.cons_append]
  exact readMembers_more named read (isBroken_ofJson j) behind <| others fuel room rest
    (fun name value mem => shallow name value (List.mem_cons_of_mem _ mem)) (by omega)

theorem readAs_noItems (blank : Blank cs) : ReadAs ('[' :: (cs ++ [']'])) (Json.array []) := by
  intro fuel room rest shallow enough _
  rw [List.length_cons] at enough
  obtain ⟨fuel, rfl⟩ : exists n, fuel = n + 1 := ⟨fuel - 1, by omega⟩
  have open' : 0 < room := Nat.pos_of_ne_zero fun none => not_depth_array_le_zero (none ▸ shallow)
  have closes : skipSpace (cs ++ [']'] ++ rest) = ']' :: rest := by
    rw [List.append_assoc, skipSpace_append blank]
    exact skipSpace_cons rfl rest
  rw [List.cons_append, readValue_noItems closes]
  exact congrArg (·, rest) (within_ofJson open' (Json.array []))

theorem readAs_array (spelled : SpellsItems cs items) (reads : ItemsReadAs cs items) :
    ReadAs ('[' :: (cs ++ [']'])) (Json.array items) := by
  intro fuel room rest shallow enough _
  rw [List.length_cons, List.length_append, List.length_singleton] at enough
  obtain ⟨fuel, rfl⟩ : exists n, fuel = n + 2 := ⟨fuel - 2, by omega⟩
  cases room with
  | zero => exact absurd shallow not_depth_array_le_zero
  | succ room =>
      have read := reads fuel room rest (depth_array_le_iff.1 shallow) (by omega)
      obtain ⟨c, after, front, other⟩ := skipSpace_items spelled (']' :: rest)
      rw [List.cons_append, List.append_assoc, List.singleton_append,
        readValue_items front other read]
      exact congrArg (·, rest) (within_ofJson (Nat.zero_lt_succ room) (Json.array items))

theorem readAs_noMembers (blank : Blank cs) :
    ReadAs ('{' :: (cs ++ ['}'])) (Json.object []) := by
  intro fuel room rest shallow enough _
  rw [List.length_cons] at enough
  obtain ⟨fuel, rfl⟩ : exists n, fuel = n + 1 := ⟨fuel - 1, by omega⟩
  have open' : 0 < room := Nat.pos_of_ne_zero fun none => not_depth_object_le_zero (none ▸ shallow)
  have closes : skipSpace (cs ++ ['}'] ++ rest) = '}' :: rest := by
    rw [List.append_assoc, skipSpace_append blank]
    exact skipSpace_cons rfl rest
  rw [List.cons_append, readValue_noMembers closes]
  exact congrArg (·, rest) (within_ofJson open' (Json.object []))

theorem readAs_object (spelled : SpellsMembers cs members) (reads : MembersReadAs cs members) :
    ReadAs ('{' :: (cs ++ ['}'])) (Json.object members) := by
  intro fuel room rest shallow enough _
  rw [List.length_cons, List.length_append, List.length_singleton] at enough
  obtain ⟨fuel, rfl⟩ : exists n, fuel = n + 2 := ⟨fuel - 2, by omega⟩
  cases room with
  | zero => exact absurd shallow not_depth_object_le_zero
  | succ room =>
      have read := reads fuel room rest (depth_object_le_iff.1 shallow) (by omega)
      obtain ⟨after, front⟩ := skipSpace_members spelled ('}' :: rest)
      rw [List.cons_append, List.append_assoc, List.singleton_append,
        readValue_members front read]
      exact congrArg (·, rest) (within_ofJson (Nat.zero_lt_succ room) (Json.object members))

theorem exists_succ_of_enough (spelled : Spells cs j) {fuel : Nat} (enough : cs.length ≤ fuel) :
    exists n, fuel = n + 1 := by
  obtain ⟨c, rest, rfl, _⟩ := exists_cons_of_spells spelled
  exact Nat.exists_eq_add_one.2 (Nat.lt_of_lt_of_le (Nat.zero_lt_succ _) enough)

end

mutual

/-- A text is read as the value that it spells out. -/
theorem readAs_of_spells {cs : List Char} {j : Json} : Spells cs j -> ReadAs cs j
  | .null => by
      intro fuel room rest _ enough _
      obtain ⟨fuel, rfl⟩ := exists_succ_of_enough .null enough
      rfl
  | .bool b => by
      intro fuel room rest _ enough _
      obtain ⟨fuel, rfl⟩ := exists_succ_of_enough (.bool b) enough
      cases b <;> rfl
  | .number n held => by
      intro fuel room rest _ enough ends
      obtain ⟨fuel, rfl⟩ := exists_succ_of_enough (.number n held) enough
      rw [readValue_numeral n fuel room ends, held]
  | .string s => by
      intro fuel room rest _ enough _
      obtain ⟨fuel, rfl⟩ := exists_succ_of_enough (.string s) enough
      exact readValue_quoted s fuel room rest
  | .noItems blank => readAs_noItems blank
  | .array spelled => readAs_array spelled (itemsReadAs_of_spells spelled)
  | .noMembers blank => readAs_noMembers blank
  | .object spelled => readAs_object spelled (membersReadAs_of_spells spelled)

theorem itemsReadAs_of_spells {cs : List Char} {items : List Json} :
    SpellsItems cs items -> ItemsReadAs cs items
  | .last spelled around => itemsReadAs_last (readAs_of_spells spelled) around
  | .more spelled around others =>
      itemsReadAs_more (readAs_of_spells spelled) around (itemsReadAs_of_spells others)

theorem membersReadAs_of_spells {cs : List Char} {members : List (String × Json)} :
    SpellsMembers cs members -> MembersReadAs cs members
  | .last named spelled around => membersReadAs_last named (readAs_of_spells spelled) around
  | .more named spelled around others =>
      membersReadAs_more named (readAs_of_spells spelled) around (membersReadAs_of_spells others)

end

theorem readValue_of_spells {cs : List Char} {j : Json} (spelled : Spells cs j) {fuel room : Nat}
    (shallow : j.depth ≤ room) (enough : cs.length ≤ fuel) :
    readValue fuel room cs = (ofJson j, []) := by
  have whole := readAs_of_spells spelled fuel room [] shallow enough ends_nil
  rw [List.append_nil] at whole
  exact whole

theorem read_of_spells {cs : List Char} {j : Json} (spelled : Spells cs j)
    (shallow : j.depth ≤ depthLimit) : read cs = (ofJson j, []) :=
  readValue_of_spells spelled shallow (by omega)

end Draft
end Json
end RobotConsole
