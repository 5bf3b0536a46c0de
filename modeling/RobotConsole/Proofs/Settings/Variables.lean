import RobotConsole.Proofs.Settings.Tables

/-!
# Variables over other values

A variable of the environment that is a setting gives one field its value, and leaves all other
fields as they are.
-/

namespace RobotConsole
namespace Environment

def pathOf? (name : String) : Option (List String) :=
  (settingName? name).map SettingLayer.path

def layVariable (j : Json) (entry : String × String) : Json :=
  match pathOf? entry.1 with
  | none => j
  | some path => j.layAt (typed entry.2) path

theorem layOver_layer (env : Environment) (j : Json) :
    SettingLayer.layOver j env.layer = env.foldl layVariable j := by
  unfold SettingLayer.layOver layer
  induction env generalizing j with
  | nil => rfl
  | cons entry rest ih =>
      obtain ⟨name, s⟩ := entry
      rw [List.foldl_cons, ← ih]
      unfold layVariable pathOf?
      cases named : settingName? name <;> simp [named]

theorem laidOver_typed (j : Json) (s : String) : j.laidOver (typed s) = typed s := by
  cases made : typed s with
  | object members =>
      unfold typed at made
      dsimp only at made
      split at made
      · cases made
      · split at made
        · cases made
        · split at made
          · cases made
          · split at made <;> cases made
  | _ => rfl

def settingVariable (part slot : String) : String :=
  String.ofList ((mark ++ part.toList ++ '_' :: '_' :: slot.toList).map Char.toUpper)

theorem variableNames_eq :
    variableNames = Settings.fields.map fun field => settingVariable field.part field.slot :=
  rfl

theorem pathOf?_settingVariable {field : Settings.Field} (known : field ∈ Settings.fields) :
    pathOf? (settingVariable field.part field.slot) = some [field.part, field.slot] := by
  have all : forall field, field ∈ Settings.fields ->
      pathOf? (settingVariable field.part field.slot) = some [field.part, field.slot] := by
    decide +kernel
  exact all field known

theorem layVariable_of_other {j : Json} {entry : String × String}
    (other : pathOf? entry.1 = none) : layVariable j entry = j := by
  unfold layVariable
  rw [other]

theorem layVariable_of_path {j : Json} {name : String} {path : List String}
    (leads : pathOf? name = some path) (s : String) :
    layVariable j (name, s) = j.layAt (typed s) path := by
  unfold layVariable
  rw [leads]

/-- No variable is there twice, and those that are settings have their common spellings. -/
structure Plain (env : Environment) : Prop where
  distinct : (env.map Prod.fst).Nodup
  spelled : forall entry, entry ∈ env -> (settingName? entry.1).isSome -> entry.1 ∈ variableNames

instance (env : Environment) : Decidable env.Plain :=
  decidable_of_iff ((env.map Prod.fst).Nodup ∧ forall entry, entry ∈ env ->
      (settingName? entry.1).isSome -> entry.1 ∈ variableNames)
    ⟨fun ⟨distinct, spelled⟩ => ⟨distinct, spelled⟩,
      fun plain => ⟨plain.distinct, plain.spelled⟩⟩

variable {env : Environment} {j : Json}

theorem Plain.tail {entry : String × String} (plain : Plain (entry :: env)) : Plain env where
  distinct := (List.nodup_cons.1 plain.distinct).2
  spelled := fun entry mem => plain.spelled entry (List.mem_cons_of_mem _ mem)

theorem Plain.cases {entry : String × String} (plain : Plain (entry :: env)) :
    pathOf? entry.1 = none ∨ exists field, field ∈ Settings.fields ∧
      entry.1 = settingVariable field.part field.slot := by
  cases named : settingName? entry.1 with
  | none =>
      left
      unfold pathOf?
      rw [named]
      rfl
  | some setting =>
      right
      have spelled := plain.spelled entry List.mem_cons_self (named ▸ rfl)
      rw [variableNames_eq] at spelled
      obtain ⟨field, known, same⟩ := List.mem_map.1 spelled
      exact ⟨field, known, same.symm⟩

theorem tabular_foldl (plain : Plain env) (tabular : j.Tabular) :
    (env.foldl layVariable j).Tabular := by
  induction env generalizing j with
  | nil => exact tabular
  | cons entry rest ih =>
      obtain ⟨name, s⟩ := entry
      refine ih plain.tail ?_
      rcases plain.cases with other | ⟨field, known, rfl⟩
      · rw [layVariable_of_other other]
        exact tabular
      · rw [layVariable_of_path (pathOf?_settingVariable known)]
        exact tabular.layAt nofun

theorem below?_foldl (plain : Plain env) (tidy : j.Tidy) {field : Settings.Field}
    (known : field ∈ Settings.fields) :
    (env.foldl layVariable j).below? field.part field.slot =
      ((env.lookup (settingVariable field.part field.slot)).map typed).or
        (j.below? field.part field.slot) := by
  induction env generalizing j with
  | nil => rfl
  | cons entry rest ih =>
      obtain ⟨name, s⟩ := entry
      have path := pathOf?_settingVariable known
      obtain ⟨fresh, -⟩ := List.nodup_cons.1 plain.distinct
      rw [List.foldl_cons, List.lookup_cons]
      rcases plain.cases with other | ⟨given, known', rfl⟩
      · have differs : (settingVariable field.part field.slot == name) = false := by
          apply beq_false_of_ne
          rintro rfl
          rw [path] at other
          cases other
        rw [differs, layVariable_of_other other]
        exact ih plain.tail tidy
      · rw [layVariable_of_path (pathOf?_settingVariable known'), ih plain.tail (tidy.layAt _ _ _),
          tidy.below?_layAt]
        by_cases here : field.part = given.part ∧ field.slot = given.slot
        -- The variable is there only once, so that nothing later overrides it.
        · rw [if_pos here, here.1, here.2, lookup_of_fresh fresh, beq_self_eq_true]
          exact congrArg some (laidOver_typed _ s)
        · have differs : (settingVariable field.part field.slot ==
              settingVariable given.part given.slot) = false := by
            apply beq_false_of_ne
            intro same
            rw [same, pathOf?_settingVariable known'] at path
            obtain ⟨samePart, rest⟩ := List.cons.inj (Option.some.inj path)
            exact here ⟨samePart.symm, (List.cons.inj rest).1.symm⟩
          rw [if_neg here, differs]

end Environment
end RobotConsole
