import RobotConsole.Proofs.Dict.Lookup
import RobotConsole.Proofs.Text.Lines
import RobotConsole.Proofs.Toml.Keys

/-!
# Laying values over others

A value that is laid over another one at the end of a path changes what is there, and nothing that
is beside the path. All layers are laid over an object without members, so that no object on the way
ever has two members of one name, and it does not matter which of them is looked up.
-/

namespace RobotConsole
namespace Json

/-- The value under a name; of several, the first. -/
def under? (j : Json) (name : String) : Option Json :=
  j.members.lookup name

/-- The value under two names, one below the other. -/
def below? (j : Json) (outer inner : String) : Option Json :=
  (j.under? outer).bind fun value => value.under? inner

def IsObject (j : Json) : Prop :=
  exists members, j = object members

/-- An object with no name twice, neither at the top nor one level below. -/
structure Tidy (j : Json) : Prop where
  isObject : j.IsObject
  distinct : j.Distinct
  inner : forall name value, j.under? name = some value -> value.Distinct

section

variable {members others : List (String × Json)} {j value : Json} {name other : String}
  {path : List String}

/-! ## Members -/

theorem lookup_reverse (distinct : (members.map Prod.fst).Nodup) :
    members.reverse.lookup name = members.lookup name := by
  induction members with
  | nil => rfl
  | cons member rest ih =>
      obtain ⟨other, value⟩ := member
      obtain ⟨fresh, distinct⟩ := List.nodup_cons.1 distinct
      rw [List.reverse_cons, List.lookup_append, ih distinct]
      by_cases same : name = other
      · subst same
        simp [lookup_of_fresh fresh]
      · have differs : (name == other) = false := beq_false_of_ne same
        simp [List.lookup_cons, differs]

theorem member?_eq (distinct : j.Distinct) : j.member? name = j.under? name := by
  cases j with
  | object members => exact lookup_reverse distinct
  | _ => rfl

theorem lookup_setMember :
    (setMember name value members).lookup other =
      if other = name then some value else members.lookup other := by
  unfold setMember
  rw [List.lookup_append, lookup_filter_ne]
  by_cases same : other = name
  · simp [same]
  · have differs : (other == name) = false := beq_false_of_ne same
    simp [same, List.lookup_cons, differs]

theorem nodup_setMember (distinct : (members.map Prod.fst).Nodup) :
    ((setMember name value members).map Prod.fst).Nodup := by
  unfold setMember
  rw [List.map_append, List.nodup_append]
  refine ⟨distinct.sublist (List.filter_sublist.map Prod.fst), List.pairwise_singleton _ _, ?_⟩
  intro kept isKept new isNew same
  obtain ⟨member, mem, rfl⟩ := List.mem_map.1 isKept
  have differs := of_decide_eq_true (List.mem_filter.1 mem).2
  exact differs (same.trans (List.mem_singleton.1 isNew))

/-! ## One value over another -/

theorem nodup_layMembers (distinct : (others.map Prod.fst).Nodup) :
    ((layMembers others members).map Prod.fst).Nodup := by
  induction members generalizing others with
  | nil =>
      unfold layMembers
      exact distinct
  | cons member rest ih =>
      unfold layMembers
      exact ih (nodup_setMember distinct)

theorem lookup_layMembers (distinct : (members.map Prod.fst).Nodup) :
    (layMembers others members).lookup name =
      match members.lookup name with
      | some value => some (laidOver ((others.lookup name).getD null) value)
      | none => others.lookup name := by
  induction members generalizing others with
  | nil =>
      unfold layMembers
      rfl
  | cons member rest ih =>
      obtain ⟨other, value⟩ := member
      obtain ⟨fresh, distinct⟩ := List.nodup_cons.1 distinct
      unfold layMembers
      rw [ih distinct, lookup_setMember]
      -- What was put under the name of this member is not looked at again by the members behind it.
      by_cases same : name = other
      · subst same
        simp [lookup_of_fresh fresh]
      · have differs : (name == other) = false := beq_false_of_ne same
        simp [same, List.lookup_cons, differs]

theorem distinct_laidOver (distinct : j.Distinct) : (laidOver j value).Distinct := by
  cases value with
  | object members =>
      unfold laidOver
      exact nodup_layMembers distinct
  | _ =>
      unfold laidOver
      exact List.nodup_nil

theorem distinct_null : null.Distinct :=
  List.nodup_nil

/-! ## At the end of a path -/

theorem distinct_layAt (distinct : j.Distinct) : (layAt j value path).Distinct := by
  cases path with
  | nil => exact distinct_laidOver distinct
  | cons name path => exact nodup_setMember distinct

theorem under?_layAt (distinct : j.Distinct) :
    (layAt j value (name :: path)).under? other =
      if other = name then some (layAt ((j.under? name).getD null) value path)
      else j.under? other := by
  rw [← member?_eq distinct]
  exact lookup_setMember

theorem below?_eq (outer inner : String) :
    j.below? outer inner = ((j.under? outer).getD null).under? inner := by
  unfold below?
  cases j.under? outer <;> rfl

namespace Tidy

variable {outer inner outer' inner' : String}

theorem old (tidy : j.Tidy) (name : String) : ((j.under? name).getD null).Distinct := by
  cases found : j.under? name with
  | none => exact distinct_null
  | some value => exact tidy.inner name value found

theorem layAt (tidy : j.Tidy) (value : Json) (name : String) (path : List String) :
    (Json.layAt j value (name :: path)).Tidy where
  isObject := ⟨_, rfl⟩
  distinct := distinct_layAt tidy.distinct
  inner := by
    intro other new found
    rw [under?_layAt tidy.distinct] at found
    split at found
    · cases found
      exact distinct_layAt (tidy.old name)
    · exact tidy.inner other new found

theorem below?_layAt_of_ne (tidy : j.Tidy) (differs : outer ≠ name) :
    (Json.layAt j value (name :: path)).below? outer inner = j.below? outer inner := by
  unfold below?
  rw [under?_layAt tidy.distinct, if_neg differs]

theorem below?_layAt (tidy : j.Tidy) :
    (Json.layAt j value (outer :: inner :: path)).below? outer' inner' =
      if outer' = outer ∧ inner' = inner then
        some (Json.layAt ((j.below? outer inner).getD null) value path)
      else j.below? outer' inner' := by
  by_cases same : outer' = outer
  · subst same
    rw [below?_eq, under?_layAt tidy.distinct, if_pos rfl, Option.getD_some,
      under?_layAt (tidy.old outer')]
    simp only [← below?_eq, true_and]
  · rw [tidy.below?_layAt_of_ne same, if_neg fun both => same both.1]

end Tidy
end

theorem tidy_empty : (object []).Tidy where
  isObject := ⟨[], rfl⟩
  distinct := List.nodup_nil
  inner := nofun

end Json

/-! ## Layers -/

namespace SettingLayer

theorem path_ne_nil (name : String) : path name ≠ [] := by
  unfold path
  dsimp only
  split
  · rw [Text.splitAll_eq_splitOn]
    exact fun none => List.splitOn_ne_nil '.' name.toList (List.map_eq_nil_iff.1 none)
  · exact List.cons_ne_nil _ _

theorem tidy_layOver {j : Json} (tidy : j.Tidy) (layer : SettingLayer) :
    (layOver j layer).Tidy := by
  unfold layOver
  induction layer generalizing j with
  | nil => exact tidy
  | cons entry rest ih =>
      apply ih
      obtain ⟨name, path, made⟩ := List.exists_cons_of_ne_nil (path_ne_nil entry.1)
      show (Json.layAt j entry.2 (SettingLayer.path entry.1)).Tidy
      rw [made]
      exact tidy.layAt entry.2 name path

end SettingLayer
end RobotConsole
