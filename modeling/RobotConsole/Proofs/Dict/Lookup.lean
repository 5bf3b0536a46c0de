import Mathlib.Data.List.Perm.Basic
import RobotConsole.Proofs.Dict.Build

/-!
# Looking up entries

What is found in a dictionary says all about it, as long as it is ascending. Here are the
laws of what is found after entries were taken out, and after those of one dictionary were
merged into another one.
-/

namespace RobotConsole

theorem eq_of_isSome_iff {α : Type} {first second : Option α}
    (present : first.isSome ↔ second.isSome)
    (same : forall a b, first = some a -> second = some b -> a = b) : first = second := by
  cases first with
  | none => cases second with
    | none => rfl
    | some b => simp at present
  | some a => cases second with
    | none => simp at present
    | some b => rw [same a b rfl rfl]

theorem lookup_of_fresh {κ α : Type} [BEq κ] [LawfulBEq κ] {entries : List (κ × α)} {key : κ}
    (fresh : key ∉ entries.map Prod.fst) : entries.lookup key = none := by
  apply List.lookup_eq_none_iff.2
  intro entry mem
  exact bne_iff_ne.2 fun same => fresh (List.mem_map.2 ⟨entry, mem, same.symm⟩)

theorem mem_of_lookup {κ α : Type} [BEq κ] [LawfulBEq κ] {entries : List (κ × α)} {key : κ} {a : α}
    (found : entries.lookup key = some a) : (key, a) ∈ entries := by
  obtain ⟨before, after, rfl, -⟩ := List.lookup_eq_some_iff.1 found
  exact List.mem_append_right before List.mem_cons_self

theorem lookup_filter_ne {κ α : Type} [DecidableEq κ] [BEq κ] [LawfulBEq κ]
    (entries : List (κ × α)) (key other : κ) :
    (entries.filter fun entry => entry.1 ≠ key).lookup other =
      if other = key then none else entries.lookup other := by
  induction entries with
  | nil => simp
  | cons entry rest ih =>
      rcases entry with ⟨k, a⟩
      by_cases gone : k = key
      · subst gone
        by_cases same : other = k
        · simpa [same] using ih
        · have differs : (other == k) = false := by simp [same]
          simpa [List.lookup_cons, differs, same] using ih
      · by_cases same : other = k
        · subst same
          simp [gone]
        · have differs : (other == k) = false := by simp [same]
          simpa [List.lookup_cons, List.filter_cons, differs, gone] using ih

namespace Dict

variable {κ : Type} {α : Type} [Ord κ] [Std.LawfulEqOrd κ]

/-! ## Entries -/

theorem mem_of_find? {d : Dict κ α} {key : κ} {a : α} (found : find? key d = some a) :
    (key, a) ∈ d := by
  induction d with
  | nil => cases found
  | cons entry rest ih =>
      rcases entry with ⟨k, b⟩
      simp only [find?] at found
      split at found
      · rename_i same
        cases found
        rw [Std.LawfulEqOrd.eq_of_compare same]
        exact List.mem_cons_self
      · exact List.mem_cons_of_mem _ (ih found)

theorem Ascending.head_ne {entry : κ × α} {rest : Dict κ α} (h : Ascending (entry :: rest)) :
    forall later, later ∈ rest -> later.1 ≠ entry.1 := by
  intro later mem same
  have ahead := (List.pairwise_cons.1 h).1 later mem
  have level : compare entry.1 entry.1 = .eq := Std.ReflCmp.compare_self
  rw [same, level] at ahead
  cases ahead

theorem Ascending.nodup_keys {d : Dict κ α} (h : Ascending d) : (d.map Prod.fst).Nodup := by
  apply List.pairwise_map.2
  apply h.imp
  intro a b less same
  have level : compare b.1 b.1 = .eq := Std.ReflCmp.compare_self
  rw [same, level] at less
  cases less

omit [Std.LawfulEqOrd κ] in
theorem Ascending.tail {entry : κ × α} {rest : Dict κ α} (h : Ascending (entry :: rest)) :
    Ascending rest :=
  (List.pairwise_cons.1 h).2

theorem Ascending.find?_of_mem {d : Dict κ α} (h : Ascending d) {entry : κ × α}
    (mem : entry ∈ d) : find? entry.1 d = some entry.2 := by
  induction d with
  | nil => cases mem
  | cons first rest ih =>
      rcases List.mem_cons.1 mem with rfl | later
      · simp [find?]
      · have differs : compare entry.1 first.1 ≠ .eq := by
          intro same
          exact h.head_ne entry later (Std.LawfulEqOrd.eq_of_compare same)
        simp only [find?]
        rw [if_neg differs]
        exact ih h.tail later

theorem Ascending.find?_iff {d : Dict κ α} (h : Ascending d) (key : κ) (a : α) :
    find? key d = some a ↔ (key, a) ∈ d :=
  ⟨mem_of_find?, h.find?_of_mem⟩

theorem Ascending.filter_key [DecidableEq κ] {d : Dict κ α} (h : Ascending d) (key : κ) :
    (d.filter fun entry => entry.1 = key).map Prod.snd = (find? key d).toList := by
  induction d with
  | nil => rfl
  | cons entry rest ih =>
      by_cases own : entry.1 = key
      · subst own
        have others : rest.filter (fun later => later.1 = entry.1) = [] := by
          apply List.filter_eq_nil_iff.2
          intro later mem same
          exact h.head_ne later mem (of_decide_eq_true same)
        rw [List.filter_cons_of_pos (by simp), others, h.find?_of_mem List.mem_cons_self]
        rfl
      · have differs : compare key entry.1 ≠ .eq :=
          fun same => own (Std.LawfulEqOrd.eq_of_compare same).symm
        rw [List.filter_cons_of_neg (by simpa using own), ih h.tail]
        simp only [find?]
        rw [if_neg differs]

theorem find?_filter (p : κ -> Bool) (d : Dict κ α) (key : κ) :
    find? key (d.filter fun entry => p entry.1) = if p key then find? key d else none := by
  induction d with
  | nil => simp [find?]
  | cons entry rest ih =>
      rcases entry with ⟨k, a⟩
      rw [List.filter_cons]
      cases order : compare key k with
      | eq =>
          have same := Std.LawfulEqOrd.eq_of_compare order
          subst same
          by_cases kept : p key
          · simp [kept, find?]
          · simpa [kept] using ih
      | _ =>
          by_cases kept : p k
          · simpa [kept, find?, order] using ih
          · simpa [kept, find?, order] using ih

section Extensionality

variable [Std.TransOrd κ]

theorem Ascending.ext {first second : Dict κ α} (h : Ascending first) (h' : Ascending second)
    (same : forall key, find? key first = find? key second) : first = second := by
  have nodup {d : Dict κ α} (h : Ascending d) : d.Nodup :=
    List.Pairwise.of_map Prod.fst (fun _ _ differs same => differs (congrArg Prod.fst same))
      h.nodup_keys
  have perm : first.Perm second := by
    rw [List.perm_ext_iff_of_nodup (nodup h) (nodup h')]
    intro entry
    rw [← h.find?_iff entry.1 entry.2, ← h'.find?_iff entry.1 entry.2, same]
  apply perm.eq_of_pairwise _ h h'
  intro a b _ _ less greater
  have back := Std.OrientedCmp.gt_of_lt less
  rw [greater] at back
  cases back

end Extensionality

/-! ## Merging -/

section Merge

variable {κ' : Type} {β : Type} [Ord κ'] [Std.LawfulEqOrd κ'] (place : κ -> κ')
  (change : κ × α -> Option β -> β)

/-- Every entry of one dictionary changes what another one holds in its place. -/
def merge (entries : Dict κ α) (d : Dict κ' β) : Dict κ' β :=
  entries.foldl (fun d entry => alter (place entry.1) (change entry) d) d

omit [Ord κ] [Std.LawfulEqOrd κ] in
theorem find?_merge_of_ne (entries : Dict κ α) (d : Dict κ' β) {key : κ'}
    (elsewhere : forall entry, entry ∈ entries -> place entry.1 ≠ key) :
    find? key (merge place change entries d) = find? key d := by
  unfold merge
  induction entries generalizing d with
  | nil => rfl
  | cons entry rest ih =>
      have differs : compare key (place entry.1) ≠ .eq := by
        intro same
        exact elsewhere entry List.mem_cons_self (Std.LawfulEqOrd.eq_of_compare same).symm
      rw [List.foldl_cons, ih _ fun later mem => elsewhere later (List.mem_cons_of_mem _ mem)]
      exact find?_alter_of_ne _ d differs

variable [Std.TransOrd κ']

omit [Ord κ] [Std.LawfulEqOrd κ] in
theorem Ascending.merge {d : Dict κ' β} (h : Ascending d) (entries : Dict κ α) :
    Ascending (merge place change entries d) := by
  unfold Dict.merge
  induction entries generalizing d with
  | nil => exact h
  | cons entry rest ih => exact ih (h.alter _ _)

omit [Ord κ] [Std.LawfulEqOrd κ] in
theorem find?_merge_congr {P : κ' -> Prop} (entries : Dict κ α) {d d' : Dict κ' β}
    (h : Ascending d) (h' : Ascending d')
    (within : forall entry, entry ∈ entries -> P (place entry.1))
    (same : forall key, P key -> find? key d = find? key d') :
    forall key, P key ->
      find? key (merge place change entries d) = find? key (merge place change entries d') := by
  unfold merge
  induction entries generalizing d d' with
  | nil => exact same
  | cons entry rest ih =>
      have later (entry : κ × α) (mem : entry ∈ rest) : P (place entry.1) :=
        within entry (List.mem_cons_of_mem _ mem)
      apply ih (h.alter _ _) (h'.alter _ _) later
      intro key inside
      by_cases order : compare key (place entry.1) = .eq
      · rw [Std.LawfulEqOrd.eq_of_compare order, find?_alter_self _ _ d h, find?_alter_self _ _ d' h',
          same _ (within entry List.mem_cons_self)]
      · rw [find?_alter_of_ne _ d order, find?_alter_of_ne _ d' order, same key inside]

theorem find?_merge {entries : Dict κ α} (distinct : Ascending entries) {d : Dict κ' β}
    (h : Ascending d) (injective : forall k k', place k = place k' -> k = k') (key : κ) :
    find? (place key) (merge place change entries d) =
      match find? key entries with
      | some a => some (change (key, a) (find? (place key) d))
      | none => find? (place key) d := by
  induction entries generalizing d with
  | nil => rfl
  | cons entry rest ih =>
      rcases entry with ⟨k, a⟩
      have later : merge place change ((k, a) :: rest) d =
          merge place change rest (alter (place k) (change (k, a)) d) := rfl
      rw [later]
      by_cases same : key = k
      · subst same
        have elsewhere (entry : κ × α) (mem : entry ∈ rest) : place entry.1 ≠ place key := by
          intro same
          exact distinct.head_ne entry mem (injective _ _ same)
        rw [find?_merge_of_ne place change rest _ elsewhere, find?_alter_self _ _ d h]
        simp [find?]
      · have differs : compare key k ≠ .eq :=
          fun order => same (Std.LawfulEqOrd.eq_of_compare order)
        have elsewhere : compare (place key) (place k) ≠ .eq :=
          fun order => same (injective _ _ (Std.LawfulEqOrd.eq_of_compare order))
        rw [ih distinct.tail (h.alter _ _), find?_alter_of_ne _ d elsewhere]
        simp [find?, differs]

end Merge

/-! ## The last entry under a key -/

/-- Of the entries that a list has under a key, the last one. -/
def IsLast (entries : List (κ × α)) (key : κ) (a : α) : Prop :=
  exists before after, entries = before ++ (key, a) :: after ∧
    forall other, other ∈ after -> other.1 ≠ key

omit [Ord κ] [Std.LawfulEqOrd κ] in
theorem exists_isLast {entries : List (κ × α)} {key : κ} {a : α} (mem : (key, a) ∈ entries) :
    exists a, IsLast entries key a := by
  induction entries generalizing a with
  | nil => cases mem
  | cons entry rest ih =>
      by_cases later : exists a, (key, a) ∈ rest
      · obtain ⟨a, mem⟩ := later
        obtain ⟨a, before, after, rfl, fresh⟩ := ih mem
        exact ⟨a, entry :: before, after, rfl, fresh⟩
      · rcases List.mem_cons.1 mem with rfl | mem
        · refine ⟨a, [], rest, rfl, ?_⟩
          rintro ⟨k, b⟩ found rfl
          exact later ⟨b, found⟩
        · exact absurd ⟨a, mem⟩ later

theorem find?_ofList_of_isLast [Std.TransOrd κ] {entries : List (κ × α)} {key : κ} {a : α}
    (last : IsLast entries key a) : find? key (ofList entries) = some a := by
  obtain ⟨before, after, rfl, fresh⟩ := last
  have split : ofList (before ++ (key, a) :: after) =
      merge id (fun entry _ => entry.2) after (insert key a (ofList before)) := by
    unfold ofList
    rw [List.foldl_append]
    rfl
  rw [split, find?_merge_of_ne id _ after _ fresh]
  exact find?_alter_self key _ _ (ascending_ofList before)

/-- A dictionary holds the last of the entries under each key, and no others. -/
theorem mem_ofList_iff_isLast [Std.TransOrd κ] {entries : List (κ × α)} {key : κ} {a : α} :
    (key, a) ∈ ofList entries ↔ IsLast entries key a := by
  have ascending := ascending_ofList entries
  constructor
  · intro mem
    obtain ⟨b, last⟩ := exists_isLast (mem_of_mem_ofList mem)
    have found := find?_ofList_of_isLast last
    rw [(ascending.find?_iff key a).2 mem] at found
    exact Option.some.inj found ▸ last
  · intro last
    exact (ascending.find?_iff key a).1 (find?_ofList_of_isLast last)

end Dict
end RobotConsole
