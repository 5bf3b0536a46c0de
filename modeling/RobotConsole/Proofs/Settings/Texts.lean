import RobotConsole.Proofs.Settings.Sources

/-!
# Texts in the environment

A text that is given to a setting by its variable is first taken for a truth value or for a number,
if it looks like one, and that is written as a text again. What comes out is the text that was
given only if it was spelled just as such values are written.
-/

namespace RobotConsole

/-! ## One value apart -/

namespace Json

/-- One object has a value below two names, and beside it nothing that another object does not have
as well. -/
structure Holds (outer inner : String) (value j j' : Json) : Prop where
  tidy : j.Tidy
  tidy' : j'.Tidy
  held : j.below? outer inner = some value
  table : forall table, j.under? outer = some table -> table.IsObject
  beside : forall other, other ≠ inner -> j.below? outer other = j'.below? outer other
  elsewhere : forall name, name ≠ outer -> j.under? name = j'.under? name

/-- Neither of two paths leads through the end of the other. -/
def Apart (path path' : List String) : Prop :=
  ¬ path <+: path' ∧ ¬ path' <+: path

namespace Holds

variable {outer inner : String} {value j j' : Json}

theorem layAt_elsewhere (holds : Holds outer inner value j j') (new : Json) {name : String}
    (differs : outer ≠ name) (path : List String) :
    Holds outer inner value (Json.layAt j new (name :: path)) (Json.layAt j' new (name :: path)) where
  tidy := holds.tidy.layAt new name path
  tidy' := holds.tidy'.layAt new name path
  held := (holds.tidy.below?_layAt_of_ne differs).trans holds.held
  table := by
    intro table found
    rw [under?_layAt holds.tidy.distinct, if_neg differs] at found
    exact holds.table table found
  beside := by
    intro other apart
    rw [holds.tidy.below?_layAt_of_ne differs, holds.tidy'.below?_layAt_of_ne differs]
    exact holds.beside other apart
  elsewhere := by
    intro other apart
    rw [under?_layAt holds.tidy.distinct, under?_layAt holds.tidy'.distinct,
      holds.elsewhere other apart, holds.elsewhere name (Ne.symm differs)]

theorem layAt_beside (holds : Holds outer inner value j j') (new : Json) {name : String}
    (differs : inner ≠ name) (path : List String) :
    Holds outer inner value (Json.layAt j new (outer :: name :: path))
      (Json.layAt j' new (outer :: name :: path)) where
  tidy := holds.tidy.layAt new outer (name :: path)
  tidy' := holds.tidy'.layAt new outer (name :: path)
  held := by
    rw [holds.tidy.below?_layAt, if_neg fun both => differs both.2]
    exact holds.held
  table := by
    intro table found
    rw [under?_layAt holds.tidy.distinct, if_pos rfl] at found
    cases found
    exact ⟨_, rfl⟩
  beside := by
    intro other apart
    rw [holds.tidy.below?_layAt, holds.tidy'.below?_layAt, holds.beside other apart,
      holds.beside name (Ne.symm differs)]
  elsewhere := by
    intro other apart
    rw [under?_layAt holds.tidy.distinct, under?_layAt holds.tidy'.distinct, if_neg apart,
      if_neg apart]
    exact holds.elsewhere other apart

/-- Laying the same value over both, away from the value that is held, keeps them one value apart. -/
theorem layAt (holds : Holds outer inner value j j') (new : Json) {path : List String}
    (apart : Apart path [outer, inner]) :
    Holds outer inner value (Json.layAt j new path) (Json.layAt j' new path) := by
  cases path with
  | nil => exact absurd List.nil_prefix apart.1
  | cons name path =>
      by_cases same : outer = name
      · subst same
        cases path with
        | nil => exact absurd (List.prefix_append [outer] [inner]) apart.1
        | cons name path =>
            refine holds.layAt_beside new ?_ path
            rintro rfl
            exact apart.2 (List.prefix_append [outer, inner] path)
      · exact holds.layAt_elsewhere new same path

theorem of_layAt (tidy : j.Tidy) {new : Json} (settled : forall old, laidOver old new = new) :
    Holds outer inner new (Json.layAt j new [outer, inner]) j where
  tidy := tidy.layAt new outer [inner]
  tidy' := tidy
  held := by
    rw [tidy.below?_layAt, if_pos ⟨rfl, rfl⟩]
    exact congrArg some (settled _)
  table := by
    intro table found
    rw [under?_layAt tidy.distinct, if_pos rfl] at found
    cases found
    exact ⟨_, rfl⟩
  beside := by
    intro other apart
    rw [tidy.below?_layAt, if_neg fun both => apart both.2]
  elsewhere := by
    intro other apart
    rw [under?_layAt tidy.distinct, if_neg apart]

theorem layAt_other (holds : Holds outer inner value j j') (new : Json) :
    Holds outer inner value j (Json.layAt j' new [outer, inner]) where
  tidy := holds.tidy
  tidy' := holds.tidy'.layAt new outer [inner]
  held := holds.held
  table := holds.table
  beside := by
    intro other apart
    rw [holds.tidy'.below?_layAt, if_neg fun both => apart both.2]
    exact holds.beside other apart
  elsewhere := by
    intro other apart
    rw [under?_layAt holds.tidy'.distinct, if_neg apart]
    exact holds.elsewhere other apart

end Holds
end Json

namespace Environment

/-- No variable leads to the end of a path, to what is above it, or to what is below it. -/
def Spares (env : Environment) (path : List String) : Prop :=
  forall entry, entry ∈ env -> forall other, pathOf? entry.1 = some other -> Json.Apart other path

theorem Spares.holds_foldl {env : Environment} {outer inner : String}
    (spares : env.Spares [outer, inner]) {value j j' : Json}
    (holds : Json.Holds outer inner value j j') :
    Json.Holds outer inner value (env.foldl layVariable j) (env.foldl layVariable j') := by
  induction env generalizing j j' with
  | nil => exact holds
  | cons entry rest ih =>
      refine ih (fun entry mem => spares entry (List.mem_cons_of_mem _ mem)) ?_
      unfold layVariable
      cases leads : pathOf? entry.1 with
      | none => exact holds
      | some path => exact holds.layAt _ (spares entry List.mem_cons_self path leads)

end Environment

/-! ## Conversion of values apart -/

namespace Settings

section

variable {outer inner : String} {value j j' : Json} {part : SettingSection}

theorem innerOf?_elsewhere (holds : Json.Holds outer inner value j j')
    (elsewhere : part.name ≠ outer) : innerOf? j part = innerOf? j' part := by
  rw [holds.tidy.isObject.innerOf?_eq, holds.tidy'.isObject.innerOf?_eq,
    holds.elsewhere part.name elsewhere]

theorem innerOf?_here (holds : Json.Holds outer inner value j j') (here : part.name = outer) :
    exists members, j.under? outer = some (.object members) ∧ innerOf? j part = some members := by
  subst here
  obtain ⟨table, found, -⟩ := Option.bind_eq_some_iff.1 holds.held
  obtain ⟨members, rfl⟩ := holds.table table found
  refine ⟨members, found, ?_⟩
  rw [holds.tidy.isObject.innerOf?_eq, found]
  rfl

theorem usable_of_holds (holds : Json.Holds outer inner value j j') (usable : Usable j') :
    Usable j := by
  intro part known
  by_cases here : part.name = outer
  · obtain ⟨members, -, found⟩ := innerOf?_here holds here
    rw [found]
    rfl
  · rw [innerOf?_elsewhere holds here]
    exact usable part known

theorem exists_section {field : Field} (known : field ∈ fields) :
    exists part, part ∈ sections ∧ part.name = field.part :=
  forall_slots_iff (P := fun name _ _ => exists part, part ∈ sections ∧ part.name = name).1
    (fun part known _ _ => ⟨part, known, rfl⟩) field known

theorem valueOf?_elsewhere (holds : Json.Holds outer inner value j j') {field : Field}
    (known : field ∈ fields) (elsewhere : field.part ≠ outer) :
    valueOf? j field.part field.slot = valueOf? j' field.part field.slot := by
  obtain ⟨part, known, here⟩ := exists_section known
  rw [← here] at elsewhere ⊢
  rw [valueOf?_eq known, valueOf?_eq known, innerOf?_elsewhere holds elsewhere]

/-- What the first of two objects has for a field, the other one has as well, apart from the value
that the first one holds. -/
theorem valueOf?_of_holds (holds : Json.Holds outer inner value j j') {field : Field}
    (known : field ∈ fields) {given : Json}
    (found : valueOf? j field.part field.slot = some given) :
    (field.part = outer ∧ field.slot = inner ∧ given = value) ∨
      valueOf? j' field.part field.slot = some given := by
  by_cases here : field.part = outer
  · obtain ⟨part, known, name⟩ := exists_section known
    obtain ⟨members, table, inside⟩ := innerOf?_here holds (name.trans here)
    rw [← name, valueOf?_of_inner known inside] at found
    have below : j.below? outer field.slot = some given := by
      unfold Json.below?
      rw [table]
      exact found
    by_cases same : field.slot = inner
    · left
      rw [same, holds.held] at below
      exact ⟨here, same, (Option.some.inj below).symm⟩
    -- Beside the value the other object has the same, so that its section is a table, too.
    · right
      rw [holds.beside field.slot same] at below
      obtain ⟨table', present, found'⟩ := Option.bind_eq_some_iff.1 below
      rw [← name, valueOf?_eq known, holds.tidy'.isObject.innerOf?_eq, name, here, present]
      cases table' with
      | object members' => exact found'
      | _ => cases found'
  · right
    rw [← valueOf?_elsewhere holds known here]
    exact found

end

/-! ## Texts -/

inductive RemoteText where
  | host
  | user
  | codePath
  deriving DecidableEq, Repr

namespace RemoteText

def slot : RemoteText -> String
  | host => "host"
  | user => "user"
  | codePath => "code_path"

def get : RemoteText -> Settings -> String
  | host, s => s.remote.host
  | user, s => s.remote.user
  | codePath, s => s.remote.codePath

def name (setting : RemoteText) : String :=
  Environment.settingVariable "remote" setting.slot

def given (setting : RemoteText) (text? : Option String) : Environment :=
  text?.toList.map fun text => (setting.name, text)

def field (setting : RemoteText) : Field :=
  ⟨"remote", setting.slot, .text, setting.get⟩

theorem field_mem (setting : RemoteText) : setting.field ∈ fields := by
  cases setting with
  | host => exact List.mem_of_getElem? (i := 7) rfl
  | user => exact List.mem_of_getElem? (i := 9) rfl
  | codePath => exact List.mem_of_getElem? (i := 10) rfl

theorem type_of_slot {setting : RemoteText} {field : Field} (known : field ∈ fields)
    (same : field.part = "remote" ∧ field.slot = setting.slot) : field.type = .text := by
  have all : forall field, field ∈ fields ->
      field.part = "remote" ∧ field.slot = setting.slot -> field.type = .text := by
    cases setting <;> decide +kernel
  exact all field known same

theorem pathOf?_name (setting : RemoteText) :
    Environment.pathOf? setting.name = some ["remote", setting.slot] := by
  have path := Environment.pathOf?_settingVariable setting.field_mem
  exact path

theorem foldl_given_some (setting : RemoteText) (j : Json) (text : String) :
    (setting.given (some text)).foldl Environment.layVariable j =
      j.layAt (Environment.typed text) ["remote", setting.slot] := by
  have only : setting.given (some text) = [(setting.name, text)] := rfl
  rw [only, List.foldl_cons, List.foldl_nil, Environment.layVariable_of_path setting.pathOf?_name]

/-- A text that was laid over some values is held, as long as no variable that comes later concerns
it, whatever its own variable gave otherwise. -/
theorem holds_given (setting : RemoteText) {after : Environment} {j : Json}
    (spared : after.Spares ["remote", setting.slot]) (text : String) (text? : Option String)
    (tidy : j.Tidy) :
    Json.Holds "remote" setting.slot (Environment.typed text)
      (after.foldl Environment.layVariable
        ((setting.given (some text)).foldl Environment.layVariable j))
      (after.foldl Environment.layVariable
        ((setting.given text?).foldl Environment.layVariable j)) := by
  apply spared.holds_foldl
  have holds : Json.Holds "remote" setting.slot (Environment.typed text)
      (j.layAt (Environment.typed text) ["remote", setting.slot]) j :=
    .of_layAt tidy fun old => Environment.laidOver_typed old text
  rw [foldl_given_some]
  cases text? with
  | none => exact holds
  | some other =>
      rw [foldl_given_some]
      exact holds.layAt_other _

end RemoteText

/-- A text that comes out as it went in: what it is taken for, if not for a text, is spelled just
like it. -/
structure Survives (text : String) : Prop where
  truth : lowercase text = "true" -> text = "true"
  falsehood : lowercase text = "false" -> text = "false"
  whole : forall n, Numeric.readSigned? 64 text.toList = some n -> text = toString n
  float : Numeric.readSigned? 64 text.toList = none -> forall literal,
    Numeric.FloatLiteral.read text.toList = .ok literal ->
      text = Numeric.plainText literal.value

theorem lowercase_eq_iff {s word : String} :
    lowercase s = word ↔ s.toList.map Char.toLower = word.toList := by
  unfold lowercase
  constructor
  · rintro rfl
    exact String.toList_ofList.symm
  · intro same
    rw [same, String.ofList_toList]

theorem survives_true : Survives "true" where
  truth := fun _ => rfl
  falsehood := by decide
  whole := by
    have none : Numeric.readSigned? 64 "true".toList = none := by decide
    rw [none]
    nofun
  float := by
    have error : Numeric.FloatLiteral.read "true".toList = .error .invalid := by decide
    rw [error]
    nofun

theorem survives_false : Survives "false" where
  truth := by decide
  falsehood := fun _ => rfl
  whole := by
    have none : Numeric.readSigned? 64 "false".toList = none := by decide
    rw [none]
    nofun
  float := by
    have error : Numeric.FloatLiteral.read "false".toList = .error .invalid := by decide
    rw [error]
    nofun

theorem exists_textOf?_typed (text : String) :
    exists t, textOf? (Environment.typed text) = some t ∧ (t = text ↔ Survives text) := by
  unfold Environment.typed
  dsimp only
  split
  · rename_i word
    refine ⟨"true", rfl, ?_, ?_⟩
    · rintro rfl
      exact survives_true
    · intro survives
      exact (survives.truth (lowercase_eq_iff.2 word)).symm
  rename_i noTruth
  split
  · rename_i word
    refine ⟨"false", rfl, ?_, ?_⟩
    · rintro rfl
      exact survives_false
    · intro survives
      exact (survives.falsehood (lowercase_eq_iff.2 word)).symm
  rename_i noFalsehood
  have truth (word : lowercase text = "true") : text = "true" :=
    absurd (lowercase_eq_iff.1 word) noTruth
  have falsehood (word : lowercase text = "false") : text = "false" :=
    absurd (lowercase_eq_iff.1 word) noFalsehood
  split
  · rename_i n whole
    refine ⟨toString n, rfl, ?_, ?_⟩
    · intro same
      refine ⟨truth, falsehood, ?_, fun none => ?_⟩
      · intro m read
        rw [whole] at read
        exact Option.some.inj read ▸ same.symm
      · rw [none] at whole
        cases whole
    · intro survives
      exact (survives.whole n whole).symm
  rename_i none
  have whole (n : Int) (read : Numeric.readSigned? 64 text.toList = some n) :
      text = toString n := by
    rw [none] at read
    cases read
  split
  · rename_i literal float
    refine ⟨Numeric.plainText literal.value, rfl, ?_, ?_⟩
    · intro same
      refine ⟨truth, falsehood, whole, fun _ other read => ?_⟩
      rw [float] at read
      exact Except.ok.inj read ▸ same.symm
    · intro survives
      exact (survives.float none literal float).symm
  · rename_i e noFloat
    refine ⟨text, rfl, ?_, fun _ => rfl⟩
    intro _
    refine ⟨truth, falsehood, whole, fun _ literal read => ?_⟩
    rw [noFloat] at read
    cases read

/-! ## Settings with another text -/

section

variable {setting : RemoteText} {value j j' : Json} {s s' : Settings}

theorem valueOf?_held (holds : Json.Holds "remote" setting.slot value j j') :
    valueOf? j "remote" setting.slot = some value := by
  have known : remoteSection ∈ sections := List.mem_of_getElem? (i := 4) rfl
  have here : remoteSection.name = "remote" := rfl
  obtain ⟨members, table, inside⟩ := innerOf?_here holds here
  have held := holds.held
  unfold Json.below? at held
  rw [table] at held
  rw [← here, valueOf?_of_inner known inside]
  exact held

theorem convertValue_text_iff {name text : String} :
    convertValue name .text value = .ok text ↔ textOf? value = some text := by
  simp only [convertValue]
  cases textOf? value <;> simp

theorem convertible_of_holds (holds : Json.Holds "remote" setting.slot value j j')
    (written : exists t, textOf? value = some t) (convertible : Convertible (valueOf? j')) :
    Convertible (valueOf? j) := by
  intro field known given found
  rcases valueOf?_of_holds holds known found with ⟨here, slot, rfl⟩ | found'
  · obtain ⟨t, written⟩ := written
    have type := RemoteText.type_of_slot known ⟨here, slot⟩
    rw [type]
    exact ⟨t, convertValue_text_iff.2 written⟩
  · exact convertible field known given found'

theorem convert_of_holds (holds : Json.Holds "remote" setting.slot value j j')
    (written : exists t, textOf? value = some t) (done : convert j' = .ok s') :
    exists s, convert j = .ok s ∧ textOf? value = some (setting.get s) ∧
      forall field, field ∈ fields -> field.part ≠ "remote" -> field.get s = field.get s' := by
  obtain ⟨usable, convertible⟩ := exists_convert_iff.1 ⟨s', done⟩
  obtain ⟨s, made⟩ := exists_convert_iff.2
    ⟨usable_of_holds holds usable, convertible_of_holds holds written convertible⟩
  have composed := (composed_of_convert made).2
  have composed' := (composed_of_convert done).2
  refine ⟨s, made, ?_, ?_⟩
  · have settles : Settles setting.slot .text (valueOf? j "remote" setting.slot)
        (setting.get {}) (setting.get s) :=
      composed setting.field setting.field_mem
    rw [valueOf?_held holds] at settles
    exact convertValue_text_iff.1 settles
  · intro field known elsewhere
    have settles := composed field known
    rw [valueOf?_elsewhere holds known elsewhere] at settles
    exact settles.unique (composed' field known)

theorem Runnable.of_same (runnable : s'.Runnable)
    (same : forall field, field ∈ fields -> field.part ≠ "remote" -> field.get s = field.get s') :
    s.Runnable := by
  simp only [fields, List.forall_mem_cons] at same
  obtain ⟨tick, expected, -, timeout, -⟩ := same
  constructor
  · exact tick (by decide) ▸ runnable.tickInterval
  · exact expected (by decide) ▸ runnable.expectedInterval
  · exact timeout (by decide) ▸ runnable.gateTimeout

end

/-! ## Loading -/

theorem exists_fileLayer {files : FileTree} {env : Environment} {path? : Option String}
    {s : Settings} (done : load files env path? = .ok s) :
    exists layer, FileLayer files path? layer := by
  cases path? with
  | none => exact ⟨[], rfl⟩
  | some path =>
      cases read : fileLayer files path with
      | error e =>
          unfold load at done
          simp only [read, bind, Except.bind] at done
          cases done
      | ok layer => exact ⟨layer, read⟩

/-- A text that is given by its variable is taken for something, and written again. So it comes out
as it went in just if it survives this. -/
theorem text_survives_iff (setting : RemoteText) {files : FileTree} {before after : Environment}
    {path? : Option String} (text : String) (spared : after.Spares ["remote", setting.slot])
    (loads : exists text? s, load files (before ++ setting.given text? ++ after) path? = .ok s) :
    exists s, load files (before ++ setting.given (some text) ++ after) path? = .ok s ∧
      textOf? (Environment.typed text) = some (setting.get s) ∧
      (setting.get s = text ↔ Survives text) := by
  obtain ⟨text?, s', loads⟩ := loads
  obtain ⟨layer, file⟩ := exists_fileLayer loads
  rw [load_eq file, ofLayers_eq_ok_iff, merge_eq, List.foldl_append, List.foldl_append,
    validate_eq_ok_iff] at loads
  obtain ⟨converts, runnable⟩ := loads
  obtain ⟨t, written, survives⟩ := exists_textOf?_typed text
  have tidy := Environment.layOver_layer before _ ▸
    SettingLayer.tidy_layOver (SettingLayer.tidy_layOver Json.tidy_empty layer) before.layer
  have holds := setting.holds_given spared text text? tidy
  obtain ⟨s, made, get, same⟩ := convert_of_holds holds ⟨t, written⟩ converts
  refine ⟨s, ?_, get, ?_⟩
  · rw [load_eq file, ofLayers_eq_ok_iff, merge_eq, List.foldl_append, List.foldl_append,
      validate_eq_ok_iff]
    exact ⟨made, runnable.of_same same⟩
  · rw [written] at get
    rw [← Option.some.inj get]
    exact survives

/-- Zeros in front of digits are lost, beside a timeout of the gate. -/
theorem text_survives_iff_leading_zeros :
    exists s, load {} ([] ++ RemoteText.user.given (some "007") ++
        [("ROBOWATCH_GATE__TIMEOUT", "30s")]) none = .ok s ∧
      textOf? (Environment.typed "007") = some s.remote.user ∧
      (s.remote.user = "007" ↔ Survives "007") := by
  have leads : Environment.pathOf? "ROBOWATCH_GATE__TIMEOUT" = some ["gate", "timeout"] := by
    decide +kernel
  have spared : Environment.Spares [("ROBOWATCH_GATE__TIMEOUT", "30s")]
      ["remote", RemoteText.user.slot] := by
    intro entry mem other found
    cases List.mem_singleton.1 mem
    cases leads.symm.trans found
    exact ⟨by decide, by decide⟩
  have loads : load {} ([] ++ RemoteText.user.given none ++
      [("ROBOWATCH_GATE__TIMEOUT", "30s")]) none = .ok { gate := { timeout := .ofSeconds 30 } } := by
    decide +kernel
  exact text_survives_iff .user "007" spared ⟨none, _, loads⟩

theorem user_of_digits_is_respelled :
    ¬ forall (setting : RemoteText) files (before after : Environment) path? text,
      after.Spares ["remote", setting.slot] ->
      (exists text? s, load files (before ++ setting.given text? ++ after) path? = .ok s) ->
      exists s, load files (before ++ setting.given (some text) ++ after) path? = .ok s ∧
        setting.get s = text := by
  intro law
  have default : load {} [] none = .ok {} := by decide +kernel
  have respelled : load {} [("ROBOWATCH_REMOTE__USER", "007")] none =
      .ok { remote := { user := "7" } } := by
    decide +kernel
  have given : RemoteText.user.given (some "007") = [("ROBOWATCH_REMOTE__USER", "007")] := by
    decide +kernel
  obtain ⟨s, done, kept⟩ := law .user {} [] [] none "007" nofun ⟨none, {}, default⟩
  rw [given] at done
  cases respelled.symm.trans done
  exact absurd kept (by decide)

end Settings
end RobotConsole
