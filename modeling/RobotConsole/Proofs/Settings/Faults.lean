import RobotConsole.Settings.Load

/-!
# Faults of settings

What is wrong with merged values, all of it and not only the fault that is reported. Of these faults
one is not reported at all: a number of seconds that is finite and not negative, but for which there
is no duration, stops the program. A text with a unit is never too long, since its nanoseconds are
clamped.
-/

namespace RobotConsole

namespace Json

def double? : Json -> Option Float
  | integer n => some (Float.ofInt n)
  | float x => some x
  | _ => none

/-- A finite number, not negative, of as many seconds as no duration has. -/
def Overlong (j : Json) : Prop :=
  exists x parts, j.double? = some x ∧ Duration.isNonNegative x ∧
    Numeric.Binary64.ofFloat x = .finite parts ∧ Duration.secondsLimit ≤ parts.floor

end Json

/-! ## Durations -/

namespace Wire

theorem isFatal_iff {e : WireError} : e.isFatal ↔ e = .endlessDuration :=
  decide_eq_true_iff

theorem ofSecondsFloat_endless_iff {x : Float} :
    Duration.ofSecondsFloat x = .error .endlessDuration ↔ Duration.isNonNegative x ∧
      exists parts, Numeric.Binary64.ofFloat x = .finite parts ∧
        Duration.secondsLimit ≤ parts.floor := by
  unfold Duration.ofSecondsFloat
  by_cases check : Duration.isNonNegative x
  · rw [if_pos check]
    unfold Duration.ofFloat?
    cases held : Numeric.Binary64.ofFloat x with
    | finite parts =>
        by_cases short : parts.floor < Duration.secondsLimit
        · simp [short]
        · simp [check, short, Nat.le_of_not_lt short]
    | _ => simp [Duration.isNonNegative, Numeric.isFinite, held] at check
  · simp [check]

theorem ofText_ne_endless (s : String) : Duration.ofText s ≠ .error .endlessDuration := by
  unfold Duration.ofText
  split <;> simp

theorem durationOfJson_endless_iff {j : Json} :
    durationOfJson j = .error .endlessDuration ↔ j.Overlong := by
  unfold Json.Overlong
  cases j with
  | string s => simp [Json.double?, durationOfJson, ofText_ne_endless]
  | integer n => simp [Json.double?, durationOfJson, ofSecondsFloat_endless_iff]
  | float x => simp [Json.double?, durationOfJson, ofSecondsFloat_endless_iff]
  | _ => simp [Json.double?, durationOfJson]

theorem decodeDuration_isFatal_iff {d : Json.Draft} :
    (exists e, decodeDuration d = .error e ∧ e.isFatal) ↔
      exists j, d.value? = some j ∧ j.Overlong := by
  unfold decodeDuration decodeValue
  cases d.value? with
  | none =>
      constructor
      · rintro ⟨e, ⟨⟩, fatal⟩
        cases fatal
      · rintro ⟨j, ⟨⟩, _⟩
  | some j =>
      simp only [isFatal_iff, exists_eq_right, Option.some.injEq, exists_eq_left']
      exact durationOfJson_endless_iff

end Wire

namespace Settings

/-! ## All faults -/

def slotFault? (fields : List (String × Json)) (slot : SettingSlot) : Option ConvertError :=
  (fields.lookup slot.name).bind fun value =>
    match convertValue slot.name slot.type value with
    | .ok _ => none
    | .error e => some e

def sectionFaults (fields : List (String × Json)) (part : SettingSection) : List ConvertError :=
  match fields.lookup part.name with
  | none => []
  | some value =>
      match fieldsOf? (part.slots.map SettingSlot.name) value with
      | none => [.unusable part.name]
      | some inner => part.slots.flatMap fun slot => (slotFault? inner slot).toList

/-- What is wrong with merged values, section by section and slot by slot. -/
def faults (merged : Json) : List ConvertError :=
  match fieldsOf? (sections.map SettingSection.name) merged with
  | none => [.unusable ""]
  | some fields => sections.flatMap (sectionFaults fields)

/-- Merged values have a value for a slot of a section. -/
def Gives (merged : Json) (part : SettingSection) (slot : SettingSlot) (value : Json) : Prop :=
  exists fields given inner, fieldsOf? (sections.map SettingSection.name) merged = some fields ∧
    fields.lookup part.name = some given ∧
    fieldsOf? (part.slots.map SettingSlot.name) given = some inner ∧
    inner.lookup slot.name = some value

/-- The settings that come of some steps are refused for the first fault of the first step with
one, if the faults of a step do not depend on the settings before it. -/
theorem foldlM_eq_error_iff {α : Type} {step : Settings -> α -> Except ConvertError Settings}
    {faults : α -> List ConvertError}
    (refused : forall s a e, step s a = .error e ↔ (faults a).head? = some e) {xs : List α}
    {s : Settings} {e : ConvertError} :
    xs.foldlM step s = .error e ↔ (xs.flatMap faults).head? = some e := by
  induction xs generalizing s with
  | nil => simp [pure, Except.pure]
  | cons x xs ih =>
      rw [List.foldlM_cons, List.flatMap_cons, List.head?_append]
      cases done : step s x with
      | error first =>
          rw [(refused s x first).1 done]
          simp [bind, Except.bind]
      | ok next =>
          have none : (faults x).head? = none := by
            apply Option.eq_none_iff_forall_ne_some.2
            intro first fault
            rw [(refused s x first).2 fault] at done
            cases done
          rw [none]
          exact ih

theorem convertSlot_eq_error_iff (fields : List (String × Json)) (s : Settings)
    (slot : SettingSlot) (e : ConvertError) :
    convertSlot fields s slot = .error e ↔ (slotFault? fields slot).toList.head? = some e := by
  unfold convertSlot slotFault?
  cases fields.lookup slot.name with
  | none => simp
  | some value =>
      cases done : convertValue slot.name slot.type value <;>
        simp [done, bind, Except.bind]

theorem convertSection_eq_error_iff (fields : List (String × Json)) (s : Settings)
    (part : SettingSection) (e : ConvertError) :
    convertSection fields s part = .error e ↔ (sectionFaults fields part).head? = some e := by
  unfold convertSection sectionFaults
  cases fields.lookup part.name with
  | none => simp
  | some value =>
      dsimp only
      cases fieldsOf? (part.slots.map SettingSlot.name) value with
      | none => simp
      | some inner =>
          exact foldlM_eq_error_iff (convertSlot_eq_error_iff inner)

theorem convert_eq_error_iff {merged : Json} {e : ConvertError} :
    convert merged = .error e ↔ (faults merged).head? = some e := by
  unfold convert faults
  cases fieldsOf? (sections.map SettingSection.name) merged with
  | none => simp
  | some fields =>
      exact foldlM_eq_error_iff (convertSection_eq_error_iff fields)

/-! ## Faults that stop the program -/

theorem convertValue_endless_iff {name : String} {type : SettingType} {value : Json} :
    convertValue name type value = .error (.duration .endlessDuration) ↔
      type = .duration ∧ value.Overlong := by
  rw [← Wire.durationOfJson_endless_iff]
  cases type with
  | duration =>
      show (Wire.durationOfJson value).mapError ConvertError.duration = _ ↔ _
      cases Wire.durationOfJson value with
      | error e =>
          show Except.error (ConvertError.duration e) = _ ↔ _
          simp
      | ok d =>
          show Except.ok d = _ ↔ _
          simp
  | flag =>
      simp only [convertValue]
      split <;> simp
  | text =>
      simp only [convertValue]
      split <;> simp
  | port =>
      simp only [convertValue]
      split <;> simp

theorem slotFault?_eq_some_iff {fields : List (String × Json)} {slot : SettingSlot}
    {e : ConvertError} :
    slotFault? fields slot = some e ↔ exists value, fields.lookup slot.name = some value ∧
      convertValue slot.name slot.type value = .error e := by
  unfold slotFault?
  cases fields.lookup slot.name with
  | none => simp
  | some value => cases done : convertValue slot.name slot.type value <;> simp [done]

theorem endless_mem_faults_iff {merged : Json} :
    .duration .endlessDuration ∈ faults merged ↔ exists part slot value, part ∈ sections ∧
      slot ∈ part.slots ∧ slot.type = .duration ∧ Gives merged part slot value ∧
      value.Overlong := by
  unfold faults Gives
  cases fieldsOf? (sections.map SettingSection.name) merged with
  | none => simp
  | some fields =>
      simp only [List.mem_flatMap, Option.some.injEq, sectionFaults]
      constructor
      · rintro ⟨part, known, fault⟩
        split at fault
        · cases fault
        · rename_i given found
          split at fault
          · simp at fault
          · rename_i inner read
            obtain ⟨slot, known', fault⟩ := List.mem_flatMap.1 fault
            obtain ⟨value, found', fault⟩ := slotFault?_eq_some_iff.1 (Option.mem_toList.1 fault)
            obtain ⟨timed, overlong⟩ := convertValue_endless_iff.1 fault
            exact ⟨part, slot, value, known, known', timed,
              ⟨fields, given, inner, rfl, found, read, found'⟩, overlong⟩
      · rintro ⟨part, slot, value, known, known', timed,
          ⟨_, given, inner, rfl, found, read, found'⟩, overlong⟩
        refine ⟨part, known, ?_⟩
        rw [found]
        dsimp only
        rw [read]
        have fault : slotFault? inner slot = some (.duration .endlessDuration) :=
          slotFault?_eq_some_iff.2
            ⟨value, found', convertValue_endless_iff.2 ⟨timed, overlong⟩⟩
        exact List.mem_flatMap.2 ⟨slot, known', Option.mem_toList.2 fault⟩

/-! ## Loading -/

/-- The layers of settings, if the file among them can be read. -/
def HasLayers (files : FileTree) (env : Environment) (path? : Option String)
    (layers : List SettingLayer) : Prop :=
  match path? with
  | none => layers = [env.layer]
  | some path => exists layer, fileLayer files path = .ok layer ∧ layers = [layer, env.layer]

theorem isFatal_iff {e : LoadError} :
    e.isFatal ↔ e = .convert (.duration .endlessDuration) := by
  cases e with
  | convert e => cases e with
    | duration e => simp [LoadError.isFatal, Wire.isFatal_iff]
    | unusable name => simp [LoadError.isFatal]
  | _ => simp [LoadError.isFatal]

def OfFile : LoadError -> Prop
  | .convert _ => False
  | .invalid _ => False
  | _ => True

theorem ofFile_findFile {files : FileTree} {path : String} {e : LoadError}
    (failed : findFile files path = .error e) : OfFile e := by
  unfold findFile at failed
  split at failed
  · split at failed <;> cases failed
    trivial
  · dsimp only at failed
    split at failed <;> cases failed
    trivial

theorem ofFile_fileLayer {files : FileTree} {path : String} {e : LoadError}
    (failed : fileLayer files path = .error e) : OfFile e := by
  unfold fileLayer at failed
  cases found : findFile files path with
  | error e' =>
      rw [found] at failed
      cases failed
      exact ofFile_findFile found
  | ok file =>
      obtain ⟨path, format, bytes⟩ := file
      rw [found] at failed
      simp only [bind, Except.bind] at failed
      split at failed
      · cases failed
        trivial
      · split at failed <;> cases failed
        trivial

theorem load_eq_error_iff {files : FileTree} {env : Environment} {path? : Option String}
    {e : LoadError} :
    load files env path? = .error e ↔
      (exists path, path? = some path ∧ fileLayer files path = .error e) ∨
      exists layers, HasLayers files env path? layers ∧ ofLayers layers = .error e := by
  unfold load HasLayers
  cases path? with
  | none => simp [bind, Except.bind]
  | some path =>
      cases read : fileLayer files path <;> simp [read, bind, Except.bind]

theorem ofLayers_eq_error_iff {layers : List SettingLayer} {e : LoadError} :
    ofLayers layers = .error e ↔
      (exists fault, (faults (SettingLayer.merge layers)).head? = some fault ∧
        e = .convert fault) ∨
      exists s failure, convert (SettingLayer.merge layers) = .ok s ∧
        s.validate = .error failure ∧ e = .invalid failure := by
  simp only [← convert_eq_error_iff]
  unfold ofLayers
  cases convert (SettingLayer.merge layers) with
  | error fault =>
      show Except.error (LoadError.convert fault) = _ ↔ _
      simp [eq_comm]
  | ok s =>
      show (s.validate.mapError LoadError.invalid).bind (fun _ => .ok s) = _ ↔ _
      cases check : s.validate with
      | error failure =>
          show Except.error (LoadError.invalid failure) = _ ↔ _
          simp [check, eq_comm]
      | ok =>
          show Except.ok s = _ ↔ _
          simp [check]

theorem validate_eq_error {s : Settings} {failure : Failure}
    (refused : s.validate = .error failure) :
    exists message, failure = .settings message := by
  unfold validate at refused
  split at refused
  · cases refused
    exact ⟨_, rfl⟩
  · cases refused

theorem load_eq_fault_iff {files : FileTree} {env : Environment} {path? : Option String}
    {fault : ConvertError} :
    load files env path? = .error (.convert fault) ↔
      exists layers, HasLayers files env path? layers ∧
        (faults (SettingLayer.merge layers)).head? = some fault := by
  rw [load_eq_error_iff]
  constructor
  · rintro (⟨path, -, failed⟩ | ⟨layers, has, failed⟩)
    · cases ofFile_fileLayer failed
    · rcases ofLayers_eq_error_iff.1 failed with ⟨fault', first, ⟨⟩⟩ | ⟨s, failure, _, _, ⟨⟩⟩
      exact ⟨layers, has, first⟩
  · rintro ⟨layers, has, first⟩
    exact .inr ⟨layers, has, ofLayers_eq_error_iff.2 (.inl ⟨_, first, rfl⟩)⟩

theorem exists_fault_of_load {files : FileTree} {env : Environment} {path? : Option String}
    {layers : List SettingLayer} (has : HasLayers files env path? layers) {fault : ConvertError}
    (mem : fault ∈ faults (SettingLayer.merge layers)) :
    exists first, first ∈ faults (SettingLayer.merge layers) ∧
      load files env path? = .error (.convert first) := by
  cases found : faults (SettingLayer.merge layers) with
  | nil => simp [found] at mem
  | cons first rest =>
      exact ⟨first, List.mem_cons_self, load_eq_fault_iff.2 ⟨layers, has, by simp [found]⟩⟩

/-- The faults that stop the program. A duration stops it if it is a number that is finite and not
negative, and of `2 ^ 64` seconds or more; a text never does. Settings stop it only if such a number
is among their faults, in a slot for a duration, and they do if it is their only one; if it is one
of several, they are refused for one of these. All other faults are reported, as faults of the
settings. -/
theorem settings_stop_for_overlong_numbers (files : FileTree) (env : Environment)
    (path? : Option String) :
    (forall d, (exists e, Wire.decodeDuration d = .error e ∧ e.isFatal) ↔
      exists j, d.value? = some j ∧ j.Overlong) ∧
    (forall merged, .duration .endlessDuration ∈ faults merged ↔
      exists part slot value, part ∈ sections ∧ slot ∈ part.slots ∧ slot.type = .duration ∧
        Gives merged part slot value ∧ value.Overlong) ∧
    ((exists e, load files env path? = .error e ∧ e.isFatal) ->
      exists layers, HasLayers files env path? layers ∧
        .duration .endlessDuration ∈ faults (SettingLayer.merge layers)) ∧
    (forall layers, HasLayers files env path? layers ->
      .duration .endlessDuration ∈ faults (SettingLayer.merge layers) ->
      (exists fault, fault ∈ faults (SettingLayer.merge layers) ∧
        load files env path? = .error (.convert fault)) ∧
      ((forall fault, fault ∈ faults (SettingLayer.merge layers) ->
          fault = .duration .endlessDuration) ->
        exists e, load files env path? = .error e ∧ e.isFatal)) ∧
    forall e, load files env path? = .error e -> e.isFatal = false ->
      exists message, e.failure = .settings message := by
  refine ⟨fun _ => Wire.decodeDuration_isFatal_iff, fun _ => endless_mem_faults_iff, ?_, ?_, ?_⟩
  · rintro ⟨e, failed, fatal⟩
    rw [isFatal_iff.1 fatal] at failed
    obtain ⟨layers, has, first⟩ := load_eq_fault_iff.1 failed
    exact ⟨layers, has, List.mem_of_mem_head? first⟩
  · intro layers has endless
    obtain ⟨fault, mem, failed⟩ := exists_fault_of_load has endless
    refine ⟨⟨fault, mem, failed⟩, ?_⟩
    intro only
    rw [only fault mem] at failed
    exact ⟨_, failed, isFatal_iff.2 rfl⟩
  · intro e failed _
    rcases load_eq_error_iff.1 failed with ⟨path, -, failed⟩ | ⟨layers, has, failed⟩
    · have file := ofFile_fileLayer failed
      cases e with
      | convert fault => cases file
      | invalid failure => cases file
      | _ => exact ⟨_, rfl⟩
    · rcases ofLayers_eq_error_iff.1 failed with ⟨fault, -, rfl⟩ | ⟨s, failure, -, refused, rfl⟩
      · cases fault <;> exact ⟨_, rfl⟩
      · exact validate_eq_error refused

/-- A variable of the environment asks for more seconds than a duration can have. -/
theorem settings_stop_for_huge_timeout :
    ¬ forall files env path? e, load files env path? = .error e -> e.isFatal = false := by
  intro law
  let env : Environment := [("ROBOWATCH_GATE__TIMEOUT", "1e300")]
  have first : (faults (SettingLayer.merge [env.layer])).head? =
      some (.duration .endlessDuration) := by
    decide +kernel
  have stops : load {} env none = .error (.convert (.duration .endlessDuration)) :=
    load_eq_fault_iff.2 ⟨_, rfl, first⟩
  cases law _ _ _ _ stops

end Settings
end RobotConsole
