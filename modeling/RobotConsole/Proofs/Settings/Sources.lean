import RobotConsole.Proofs.Settings.Variables

/-!
# Where settings come from

Each field of loaded settings comes from its variable in the environment, or else from the file, or
else it is the default. Values are converted only when all layers are merged: a value of the file
that is overridden need not make sense.
-/

namespace RobotConsole
namespace Settings

/-! ## Loading -/

def FileLayer (files : FileTree) (path? : Option String) (layer : SettingLayer) : Prop :=
  match path? with
  | none => layer = []
  | some path => fileLayer files path = .ok layer

section

variable {files : FileTree} {env : Environment} {path? : Option String} {layer : SettingLayer}
  {layers : List SettingLayer} {s : Settings} {e : ConvertError}

theorem load_eq (file : FileLayer files path? layer) :
    load files env path? = ofLayers [layer, env.layer] := by
  cases path? with
  | none =>
      cases file
      rfl
  | some path =>
      have read : fileLayer files path = .ok layer := file
      unfold load
      simp only [read, bind, Except.bind]
      rfl

theorem tidy_of_file (file : FileLayer files path? layer) : (Json.object layer).Tidy := by
  cases path? with
  | none =>
      cases file
      exact Json.tidy_empty
  | some path => exact tidy_of_fileLayer file

theorem merge_eq (env : Environment) (layer : SettingLayer) :
    SettingLayer.merge [layer, env.layer] =
      env.foldl Environment.layVariable (SettingLayer.layOver (.object []) layer) :=
  Environment.layOver_layer env _

theorem ofLayers_eq_ok_iff :
    ofLayers layers = .ok s ↔
      convert (SettingLayer.merge layers) = .ok s ∧ s.validate = .ok () := by
  unfold ofLayers
  cases convert (SettingLayer.merge layers) with
  | error fault =>
      show Except.error (LoadError.convert fault) = _ ↔ _
      simp
  | ok s' =>
      show (s'.validate.mapError LoadError.invalid).bind (fun _ => .ok s') = _ ↔ _
      cases check : s'.validate with
      | error failure =>
          show Except.error (LoadError.invalid failure) = _ ↔ _
          constructor
          · nofun
          · rintro ⟨⟨⟩, valid⟩
            rw [check] at valid
            cases valid
      | ok =>
          show Except.ok s' = _ ↔ _
          constructor
          · rintro ⟨⟩
            exact ⟨rfl, check⟩
          · rintro ⟨⟨⟩, -⟩
            rfl

/-- The times that a session cannot run with if they are zero. -/
structure Runnable (s : Settings) : Prop where
  tickInterval : s.health.tickInterval.nanos ≠ 0
  expectedInterval : s.health.expectedInterval.nanos ≠ 0
  gateTimeout : s.gate.timeout.nanos ≠ 0

theorem validate_eq_ok_iff : s.validate = .ok () ↔ s.Runnable := by
  have runnable : s.Runnable ↔
      s.intervals.find? (fun interval => interval.2.isZero) = none := by
    rw [List.find?_eq_none]
    simp only [intervals, List.forall_mem_cons, Duration.isZero, decide_eq_true_eq]
    exact ⟨fun ⟨tick, expected, timeout⟩ => ⟨tick, expected, timeout, nofun⟩,
      fun ⟨tick, expected, timeout, _⟩ => ⟨tick, expected, timeout⟩⟩
  rw [runnable]
  unfold validate
  cases s.intervals.find? fun interval => interval.2.isZero <;> simp

theorem ofLayers_convert_iff :
    (exists e, ofLayers layers = .error (.convert e)) ↔
      ¬ exists s, convert (SettingLayer.merge layers) = .ok s := by
  simp only [ofLayers_eq_error_iff, ← convert_eq_error_iff]
  cases convert (SettingLayer.merge layers) <;> simp

theorem ofLayers_invalid_iff :
    (exists failure, ofLayers layers = .error (.invalid failure)) ↔
      exists s, convert (SettingLayer.merge layers) = .ok s ∧ ¬ s.Runnable := by
  simp only [ofLayers_eq_error_iff, ← validate_eq_ok_iff]
  constructor
  · rintro ⟨failure, ⟨fault, -, ⟨⟩⟩ | ⟨s, _, done, refused, -⟩⟩
    refine ⟨s, done, ?_⟩
    rw [refused]
    nofun
  · rintro ⟨s, done, invalid⟩
    cases check : s.validate with
    | error failure => exact ⟨failure, .inr ⟨s, failure, done, check, rfl⟩⟩
    | ok => exact absurd check invalid

/-! ## The value that counts -/

/-- The value that counts for a slot: that of its variable, or else that of the file. -/
def effective? (env : Environment) (layer : SettingLayer) (part slot : String) : Option Json :=
  ((env.lookup (Environment.settingVariable part slot)).map Environment.typed).or
    ((Json.object layer).below? part slot)

/-- Nothing is made of an object, and so it does not matter how it was merged. -/
theorem convertValue_laidOver (name : String) (type : SettingType) (value : Json) :
    convertValue name type (Json.null.laidOver value) = convertValue name type value := by
  unfold Json.laidOver
  cases value with
  | object members => cases type <;> rfl
  | _ => rfl

theorem valueOf?_merge (made : SectionTables layer) (tidy : (Json.object layer).Tidy)
    (plain : env.Plain) {field : Field} (known : field ∈ fields) :
    valueOf? (SettingLayer.merge [layer, env.layer]) field.part field.slot =
      ((env.lookup (Environment.settingVariable field.part field.slot)).map
        Environment.typed).or
        (((Json.object layer).below? field.part field.slot).map Json.null.laidOver) := by
  have tabular := made.tabular Json.tabular_empty
  rw [merge_eq, (Environment.tabular_foldl plain tabular).valueOf?_eq known,
    Environment.below?_foldl plain tabular.toTidy known, made.below?_layOver tidy]

/-- What comes of the merged values is what comes of the values that count. -/
theorem settles_merge_iff (made : SectionTables layer) (tidy : (Json.object layer).Tidy)
    (plain : env.Plain) {field : Field} (known : field ∈ fields) {default v : field.type.Value} :
    Settles field.slot field.type
        (valueOf? (SettingLayer.merge [layer, env.layer]) field.part field.slot) default v ↔
      Settles field.slot field.type (effective? env layer field.part field.slot) default v := by
  rw [settles_iff, settles_iff, valueOf?_merge made tidy plain known]
  unfold effective?
  cases env.lookup (Environment.settingVariable field.part field.slot) with
  | some text => exact Iff.rfl
  | none =>
      cases (Json.object layer).below? field.part field.slot with
      | none => exact Iff.rfl
      | some value =>
          show convertValue _ _ (Json.null.laidOver value) = _ ↔ convertValue _ _ value = _
          rw [convertValue_laidOver]

theorem usable_merge (made : SectionTables layer) (plain : env.Plain) :
    Usable (SettingLayer.merge [layer, env.layer]) := by
  rw [merge_eq]
  exact (Environment.tabular_foldl plain (made.tabular Json.tabular_empty)).usable

theorem convert_merge_iff (made : SectionTables layer) (tidy : (Json.object layer).Tidy)
    (plain : env.Plain) :
    convert (SettingLayer.merge [layer, env.layer]) = .ok s ↔
      Composed (effective? env layer) s := by
  rw [convert_eq_ok_iff, and_iff_right (usable_merge made plain)]
  exact forall₂_congr fun field known => settles_merge_iff made tidy plain known

theorem exists_convert_merge_iff (made : SectionTables layer) (tidy : (Json.object layer).Tidy)
    (plain : env.Plain) :
    (exists s, convert (SettingLayer.merge [layer, env.layer]) = .ok s) ↔
      Convertible (effective? env layer) := by
  rw [exists_convert_iff, and_iff_right (usable_merge made plain), convertible_iff,
    convertible_iff]
  apply forall₂_congr
  intro field known
  exact exists_congr fun v => settles_merge_iff made tidy plain known

/-- Where settings come from. They are loaded just if each field is what the environment says, or
else what the file says, or else its default, and no session would be kept from running by a time of
zero. Of all values in the file and in the environment, only those that count can be refused. -/
theorem each_field_has_its_own_source (file : FileLayer files path? layer)
    (made : SectionTables layer) (plain : env.Plain) :
    (forall s, load files env path? = .ok s ↔ Composed (effective? env layer) s ∧ s.Runnable) ∧
    ((exists e, load files env path? = .error (.convert e)) ↔
      exists field, field ∈ fields ∧ exists value,
        effective? env layer field.part field.slot = some value ∧
        forall v, convertValue field.slot field.type value ≠ .ok v) ∧
    ((exists failure, load files env path? = .error (.invalid failure)) ↔
      exists s, Composed (effective? env layer) s ∧ ¬ s.Runnable) := by
  have tidy := tidy_of_file file
  rw [load_eq file]
  refine ⟨?_, ?_, ?_⟩
  · intro s
    rw [ofLayers_eq_ok_iff, convert_merge_iff made tidy plain, validate_eq_ok_iff]
  · rw [ofLayers_convert_iff, exists_convert_merge_iff made tidy plain]
    simp only [Convertible, not_forall, not_exists, exists_prop]
  · simp only [ofLayers_invalid_iff, convert_merge_iff made tidy plain]

/-- A tick that is no duration is overridden; the interval and the user of the file stay, and all
else is left at its default. -/
theorem tick_of_environment_over_file :
    exists files env layer s, FileLayer files (some "robot.toml") layer ∧ SectionTables layer ∧
      Environment.Plain env ∧ load files env (some "robot.toml") = .ok s ∧
      s.health = { tickInterval := .ofMillis 250, expectedInterval := .ofMillis 50 } ∧
      s.remote = { user := "007" } ∧ Composed (effective? env layer) s ∧ s.Runnable := by
  let text := "[health]\ntick_interval = \"soon\"\nexpected_interval = \"50ms\"\n\n" ++
    "[remote]\nuser = \"007\"\n"
  let files := ({} : FileTree).withFile "robot.toml" (Text.encodeUtf8 text)
  let env : Environment := [("PATH", "/bin"), ("ROBOWATCH_HEALTH__TICK_INTERVAL", "250ms")]
  let s : Settings :=
    { health := { tickInterval := .ofMillis 250, expectedInterval := .ofMillis 50 }
      remote := { user := "007" } }
  have tables : ((fileLayer files "robot.toml").toOption.any fun layer =>
      decide (SectionTables layer)) = true := by
    decide +kernel
  have plain : Environment.Plain env := by decide +kernel
  have loads : load files env (some "robot.toml") = .ok s := by decide +kernel
  cases read : fileLayer files "robot.toml" with
  | error e =>
      rw [read] at tables
      cases tables
  | ok layer =>
      rw [read] at tables
      have file : FileLayer files (some "robot.toml") layer := read
      have made : SectionTables layer := of_decide_eq_true tables
      obtain ⟨sources, -⟩ := each_field_has_its_own_source file made plain
      obtain ⟨composed, runnable⟩ := (sources s).1 loads
      exact ⟨files, env, layer, s, file, made, plain, loads, rfl, rfl, composed, runnable⟩

end

-- A time that is above zero in its text is not, when it was rounded to nanoseconds.
example : load {} [("ROBOWATCH_GATE__TIMEOUT", "0.4ns")] none =
    .error (.invalid (.settings "gate.timeout must be greater than zero")) := by
  decide +kernel

end Settings
end RobotConsole
