import RobotConsole.Proofs.Settings.Faults

/-!
# Fields of settings

Conversion goes section by section and slot by slot, each time over the settings so far. What comes
of it is said here field by field: a field is what its own slot gives, or keeps its default,
whatever the other slots give.
-/

namespace RobotConsole
namespace Settings

/-! ## Values of slots -/

/-- What merged values have for the slots of a section, if it can be told. A section that is left
out has nothing. -/
def innerOf? (merged : Json) (part : SettingSection) : Option (List (String × Json)) :=
  (fieldsOf? (sections.map SettingSection.name) merged).bind fun given =>
    match given.lookup part.name with
    | none => some []
    | some value => fieldsOf? (part.slots.map SettingSlot.name) value

def Usable (merged : Json) : Prop :=
  forall part, part ∈ sections -> (innerOf? merged part).isSome

def valueOf? (merged : Json) (part slot : String) : Option Json :=
  (sections.find? fun other => other.name = part).bind fun part =>
    (innerOf? merged part).bind fun inner => inner.lookup slot

theorem find?_sections {part : SettingSection} (known : part ∈ sections) :
    sections.find? (fun other => other.name = part.name) = some part := by
  simp only [sections, List.mem_cons, List.not_mem_nil, or_false] at known
  rcases known with rfl | rfl | rfl | rfl | rfl <;> rfl

section

variable {merged : Json} {given inner : List (String × Json)} {s s' : Settings}
  {part : SettingSection} {slot : SettingSlot}

theorem valueOf?_eq (known : part ∈ sections) (name : String) :
    valueOf? merged part.name name = (innerOf? merged part).bind fun inner => inner.lookup name := by
  unfold valueOf?
  rw [find?_sections known]
  rfl

theorem valueOf?_of_inner (known : part ∈ sections) (found : innerOf? merged part = some inner)
    (name : String) : valueOf? merged part.name name = inner.lookup name := by
  rw [valueOf?_eq known, found]
  rfl

/-! ## Fields -/

/-- A field of settings, with the section and the slot that it is written in. -/
structure Field where
  part : String
  slot : String
  type : SettingType
  get : Settings -> type.Value

def fields : List Field :=
  [⟨"health", "tick_interval", .duration, fun s => s.health.tickInterval⟩,
    ⟨"health", "expected_interval", .duration, fun s => s.health.expectedInterval⟩,
    ⟨"health", "disconnect_timeout", .duration, fun s => s.health.disconnectTimeout⟩,
    ⟨"gate", "timeout", .duration, fun s => s.gate.timeout⟩,
    ⟨"editor", "strip_trailing_whitespace", .flag, fun s => s.editor.stripTrailingWhitespace⟩,
    ⟨"editor", "ensure_trailing_newline", .flag, fun s => s.editor.ensureTrailingNewline⟩,
    ⟨"control", "open_log_on_run", .flag, fun s => s.control.openLogOnRun⟩,
    ⟨"remote", "host", .text, fun s => s.remote.host⟩,
    ⟨"remote", "port", .port, fun s => s.remote.port⟩,
    ⟨"remote", "user", .text, fun s => s.remote.user⟩,
    ⟨"remote", "code_path", .text, fun s => s.remote.codePath⟩]

theorem ext_of_fields (same : forall field, field ∈ fields -> field.get s = field.get s') :
    s = s' := by
  obtain ⟨⟨_, _, _⟩, ⟨_⟩, ⟨_, _⟩, ⟨_⟩, ⟨_, _, _, _⟩⟩ := s
  obtain ⟨⟨_, _, _⟩, ⟨_⟩, ⟨_, _⟩, ⟨_⟩, ⟨_, _, _, _⟩⟩ := s'
  simp only [fields, List.forall_mem_cons] at same
  obtain ⟨rfl, rfl, rfl, rfl, rfl, rfl, rfl, rfl, rfl, rfl, rfl, -⟩ := same
  rfl

theorem slots_eq_fields :
    sections.flatMap (fun part => part.slots.map fun slot => (part.name, slot.name, slot.type)) =
      fields.map fun field => (field.part, field.slot, field.type) :=
  rfl

theorem forall_slots_iff {P : String -> String -> SettingType -> Prop} :
    (forall part, part ∈ sections -> forall slot, slot ∈ part.slots ->
        P part.name slot.name slot.type) ↔
      forall field, field ∈ fields -> P field.part field.slot field.type := by
  have both : (forall key, key ∈ sections.flatMap (fun part => part.slots.map fun slot =>
      (part.name, slot.name, slot.type)) -> P key.1 key.2.1 key.2.2) ↔
      forall key, key ∈ fields.map (fun field => (field.part, field.slot, field.type)) ->
        P key.1 key.2.1 key.2.2 := by
    rw [slots_eq_fields]
  simpa only [List.forall_mem_flatMap, List.forall_mem_map] using both

/-- What becomes of a field: what its slot gives, or its default if the slot gives nothing. -/
def Settles (name : String) (type : SettingType) (given : Option Json) (default v : type.Value) :
    Prop :=
  match given with
  | none => v = default
  | some value => convertValue name type value = .ok v

theorem settles_iff {name : String} {type : SettingType} {given : Option Json}
    {default v : type.Value} :
    Settles name type given default v ↔
      (given.map (convertValue name type)).getD (.ok default) = .ok v := by
  cases given with
  | none => exact ⟨fun same => congrArg Except.ok same.symm, fun same => (Except.ok.inj same).symm⟩
  | some value => exact Iff.rfl

theorem Settles.unique {name : String} {type : SettingType} {given : Option Json}
    {default v v' : type.Value} (settles : Settles name type given default v)
    (settles' : Settles name type given default v') : v = v' := by
  cases given with
  | none => exact settles.trans settles'.symm
  | some value => exact Except.ok.inj (settles.symm.trans settles')

/-- Every field of the settings comes of the value given for it, or is the default. -/
def Composed (given : String -> String -> Option Json) (s : Settings) : Prop :=
  forall field, field ∈ fields ->
    Settles field.slot field.type (given field.part field.slot) (field.get {}) (field.get s)

theorem Composed.unique {given : String -> String -> Option Json} (composed : Composed given s)
    (composed' : Composed given s') : s = s' :=
  ext_of_fields fun field known => (composed field known).unique (composed' field known)

/-! ## Conversion, slot by slot -/

theorem exists_of_foldlM_cons {α : Type} {step : Settings -> α -> Except ConvertError Settings}
    {x : α} {xs : List α} (done : (x :: xs).foldlM step s = .ok s') :
    exists next, step s x = .ok next ∧ xs.foldlM step next = .ok s' := by
  rw [List.foldlM_cons] at done
  cases made : step s x with
  | error e =>
      rw [made] at done
      cases done
  | ok next =>
      rw [made] at done
      exact ⟨next, rfl, done⟩

theorem settles_cons (old : slot.type.Value) (kept : slot.set s old = s) {slots : List SettingSlot}
    (done : (slot :: slots).foldlM (convertSlot inner) s = .ok s') :
    exists v, Settles slot.name slot.type (inner.lookup slot.name) old v ∧
      slots.foldlM (convertSlot inner) (slot.set s v) = .ok s' := by
  obtain ⟨next, made, done⟩ := exists_of_foldlM_cons done
  unfold convertSlot at made
  cases found : inner.lookup slot.name with
  | none =>
      rw [found] at made
      cases made
      refine ⟨old, rfl, ?_⟩
      rw [kept]
      exact done
  | some value =>
      rw [found] at made
      cases converted : convertValue slot.name slot.type value with
      | error e =>
          simp only [converted] at made
          cases made
      | ok v =>
          simp only [converted] at made
          cases made
          exact ⟨v, converted, done⟩

theorem settles_health (done : healthSection.slots.foldlM (convertSlot inner) s = .ok s') :
    exists health : HealthSettings, s' = { s with health } ∧
      Settles "tick_interval" .duration (inner.lookup "tick_interval")
        s.health.tickInterval health.tickInterval ∧
      Settles "expected_interval" .duration (inner.lookup "expected_interval")
        s.health.expectedInterval health.expectedInterval ∧
      Settles "disconnect_timeout" .duration (inner.lookup "disconnect_timeout")
        s.health.disconnectTimeout health.disconnectTimeout := by
  obtain ⟨tick, first, done⟩ := settles_cons s.health.tickInterval rfl done
  obtain ⟨expected, second, done⟩ := settles_cons s.health.expectedInterval rfl done
  obtain ⟨timeout, third, done⟩ := settles_cons s.health.disconnectTimeout rfl done
  cases done
  exact ⟨⟨tick, expected, timeout⟩, rfl, first, second, third⟩

theorem settles_gate (done : gateSection.slots.foldlM (convertSlot inner) s = .ok s') :
    exists gate : GateSettings, s' = { s with gate } ∧
      Settles "timeout" .duration (inner.lookup "timeout") s.gate.timeout gate.timeout := by
  obtain ⟨timeout, only, done⟩ := settles_cons s.gate.timeout rfl done
  cases done
  exact ⟨⟨timeout⟩, rfl, only⟩

theorem settles_editor (done : editorSection.slots.foldlM (convertSlot inner) s = .ok s') :
    exists editor : EditorSettings, s' = { s with editor } ∧
      Settles "strip_trailing_whitespace" .flag (inner.lookup "strip_trailing_whitespace")
        s.editor.stripTrailingWhitespace editor.stripTrailingWhitespace ∧
      Settles "ensure_trailing_newline" .flag (inner.lookup "ensure_trailing_newline")
        s.editor.ensureTrailingNewline editor.ensureTrailingNewline := by
  obtain ⟨strip, first, done⟩ := settles_cons s.editor.stripTrailingWhitespace rfl done
  obtain ⟨ensure, second, done⟩ := settles_cons s.editor.ensureTrailingNewline rfl done
  cases done
  exact ⟨⟨strip, ensure⟩, rfl, first, second⟩

theorem settles_control (done : controlSection.slots.foldlM (convertSlot inner) s = .ok s') :
    exists control : ControlSettings, s' = { s with control } ∧
      Settles "open_log_on_run" .flag (inner.lookup "open_log_on_run")
        s.control.openLogOnRun control.openLogOnRun := by
  obtain ⟨shown, only, done⟩ := settles_cons s.control.openLogOnRun rfl done
  cases done
  exact ⟨⟨shown⟩, rfl, only⟩

theorem settles_remote (done : remoteSection.slots.foldlM (convertSlot inner) s = .ok s') :
    exists remote : RemoteSettings, s' = { s with remote } ∧
      Settles "host" .text (inner.lookup "host") s.remote.host remote.host ∧
      Settles "port" .port (inner.lookup "port") s.remote.port remote.port ∧
      Settles "user" .text (inner.lookup "user") s.remote.user remote.user ∧
      Settles "code_path" .text (inner.lookup "code_path") s.remote.codePath remote.codePath := by
  obtain ⟨host, first, done⟩ := settles_cons s.remote.host rfl done
  obtain ⟨port, second, done⟩ := settles_cons s.remote.port rfl done
  obtain ⟨user, third, done⟩ := settles_cons s.remote.user rfl done
  obtain ⟨path, fourth, done⟩ := settles_cons s.remote.codePath rfl done
  cases done
  exact ⟨⟨host, port, user, path⟩, rfl, first, second, third, fourth⟩

/-! ## Conversion, section by section -/

theorem foldlM_convertSlot_nil (slots : List SettingSlot) :
    slots.foldlM (convertSlot []) s = .ok s := by
  induction slots with
  | nil => rfl
  | cons slot slots ih => exact ih

theorem settles_section (read : fieldsOf? (sections.map SettingSection.name) merged = some given)
    {parts : List SettingSection}
    (done : (part :: parts).foldlM (convertSection given) s = .ok s') :
    exists inner next, innerOf? merged part = some inner ∧
      part.slots.foldlM (convertSlot inner) s = .ok next ∧
      parts.foldlM (convertSection given) next = .ok s' := by
  obtain ⟨next, made, done⟩ := exists_of_foldlM_cons done
  unfold innerOf?
  rw [read]
  simp only [Option.bind_some]
  unfold convertSection at made
  cases found : given.lookup part.name with
  | none =>
      rw [found] at made
      cases made
      exact ⟨[], _, rfl, foldlM_convertSlot_nil part.slots, done⟩
  | some value =>
      rw [found] at made
      dsimp only at made ⊢
      cases taken : fieldsOf? (part.slots.map SettingSlot.name) value with
      | none =>
          rw [taken] at made
          cases made
      | some inner =>
          rw [taken] at made
          exact ⟨inner, next, rfl, made, done⟩

theorem composed_of_convert (done : convert merged = .ok s) :
    Usable merged ∧ Composed (valueOf? merged) s := by
  unfold convert at done
  split at done
  · cases done
  rename_i given read
  -- Each section starts from what the ones before it left, and changes a part of its own only.
  obtain ⟨health, _, foundHealth, made, done⟩ := settles_section read done
  obtain ⟨_, rfl, tick, expected, disconnect⟩ := settles_health made
  obtain ⟨gate, _, foundGate, made, done⟩ := settles_section read done
  obtain ⟨_, rfl, timeout⟩ := settles_gate made
  obtain ⟨editor, _, foundEditor, made, done⟩ := settles_section read done
  obtain ⟨_, rfl, strip, ensure⟩ := settles_editor made
  obtain ⟨control, _, foundControl, made, done⟩ := settles_section read done
  obtain ⟨_, rfl, shown⟩ := settles_control made
  obtain ⟨remote, _, foundRemote, made, done⟩ := settles_section read done
  obtain ⟨_, rfl, host, port, user, path⟩ := settles_remote made
  cases done
  constructor
  · simp [Usable, sections, foundHealth, foundGate, foundEditor, foundControl, foundRemote]
  · have fromHealth := valueOf?_of_inner (.head _) foundHealth
    have fromGate := valueOf?_of_inner (.tail _ (.head _)) foundGate
    have fromEditor := valueOf?_of_inner (.tail _ (.tail _ (.head _))) foundEditor
    have fromControl := valueOf?_of_inner (.tail _ (.tail _ (.tail _ (.head _)))) foundControl
    have fromRemote := valueOf?_of_inner (.tail _ (.tail _ (.tail _ (.tail _ (.head _)))))
      foundRemote
    simp only [Composed, fields, List.forall_mem_cons]
    exact ⟨fromHealth _ ▸ tick, fromHealth _ ▸ expected, fromHealth _ ▸ disconnect,
      fromGate _ ▸ timeout, fromEditor _ ▸ strip, fromEditor _ ▸ ensure, fromControl _ ▸ shown,
      fromRemote _ ▸ host, fromRemote _ ▸ port, fromRemote _ ▸ user, fromRemote _ ▸ path, nofun⟩

/-! ## Settings without a fault -/

/-- Something can be made of every value for a slot. -/
def Convertible (given : String -> String -> Option Json) : Prop :=
  forall field, field ∈ fields -> forall value, given field.part field.slot = some value ->
    exists v, convertValue field.slot field.type value = .ok v

theorem convertible_iff {given : String -> String -> Option Json} :
    Convertible given ↔ forall field, field ∈ fields ->
      exists v, Settles field.slot field.type (given field.part field.slot) (field.get {}) v := by
  apply forall₂_congr
  intro field known
  cases given field.part field.slot with
  | none => exact ⟨fun _ => ⟨_, rfl⟩, fun _ => nofun⟩
  | some value => exact ⟨fun all => all value rfl, fun made _ same => Option.some.inj same ▸ made⟩

theorem slotFault?_eq_none_iff :
    slotFault? inner slot = none ↔ forall value, inner.lookup slot.name = some value ->
      exists v, convertValue slot.name slot.type value = .ok v := by
  unfold slotFault?
  cases inner.lookup slot.name with
  | none => simp
  | some value => cases made : convertValue slot.name slot.type value <;> simp [made]

theorem sectionFaults_eq_nil_iff
    (read : fieldsOf? (sections.map SettingSection.name) merged = some given) :
    sectionFaults given part = [] ↔ exists inner, innerOf? merged part = some inner ∧
      forall slot, slot ∈ part.slots -> slotFault? inner slot = none := by
  unfold sectionFaults innerOf?
  rw [read]
  simp only [Option.bind_some]
  cases given.lookup part.name with
  | none => simp [slotFault?]
  | some value =>
      dsimp only
      cases fieldsOf? (part.slots.map SettingSlot.name) value <;> simp

theorem faults_eq_nil_iff :
    faults merged = [] ↔ Usable merged ∧ Convertible (valueOf? merged) := by
  unfold Convertible
  rw [← forall_slots_iff (P := fun part slot type => forall value, valueOf? merged part slot =
    some value -> exists v, convertValue slot type value = .ok v)]
  unfold faults
  cases read : fieldsOf? (sections.map SettingSection.name) merged with
  | none =>
      have unusable : ¬ Usable merged := by
        intro usable
        have some := usable healthSection (.head _)
        unfold innerOf? at some
        rw [read] at some
        cases some
      simp [unusable]
  | some given =>
      dsimp only
      rw [List.flatMap_eq_nil_iff]
      constructor
      · intro none
        constructor
        · intro part known
          obtain ⟨inner, found, -⟩ := (sectionFaults_eq_nil_iff read).1 (none part known)
          rw [found]
          rfl
        · intro part known slot known' value
          obtain ⟨inner, found, faultless⟩ := (sectionFaults_eq_nil_iff read).1 (none part known)
          rw [valueOf?_of_inner known found]
          exact slotFault?_eq_none_iff.1 (faultless slot known') value
      · rintro ⟨usable, convertible⟩ part known
        obtain ⟨inner, found⟩ := Option.isSome_iff_exists.1 (usable part known)
        refine (sectionFaults_eq_nil_iff read).2 ⟨inner, found, ?_⟩
        intro slot known'
        apply slotFault?_eq_none_iff.2
        intro value
        rw [← valueOf?_of_inner known found]
        exact convertible part known slot known' value

theorem exists_convert_iff :
    (exists s, convert merged = .ok s) ↔ Usable merged ∧ Convertible (valueOf? merged) := by
  rw [← faults_eq_nil_iff, ← List.head?_eq_none_iff]
  constructor
  · rintro ⟨s, done⟩
    apply Option.eq_none_iff_forall_ne_some.2
    intro e first
    rw [convert_eq_error_iff.2 first] at done
    cases done
  · intro none
    cases done : convert merged with
    | error e =>
        rw [convert_eq_error_iff.1 done] at none
        cases none
    | ok s => exact ⟨s, rfl⟩

theorem convert_eq_ok_iff :
    convert merged = .ok s ↔ Usable merged ∧ Composed (valueOf? merged) s := by
  constructor
  · exact composed_of_convert
  · rintro ⟨usable, composed⟩
    have convertible : Convertible (valueOf? merged) := by
      intro field known value found
      have settles := composed field known
      rw [found] at settles
      exact ⟨_, settles⟩
    obtain ⟨s', done⟩ := exists_convert_iff.2 ⟨usable, convertible⟩
    rw [done, (composed_of_convert done).2.unique composed]

end

end Settings
end RobotConsole
