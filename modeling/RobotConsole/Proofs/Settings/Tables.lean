import RobotConsole.Proofs.Settings.Fields
import RobotConsole.Proofs.Settings.Layers
import RobotConsole.Proofs.Wire.Decoded

/-!
# Tables of settings

Layers that are made of tables stand for a table of tables when they are merged. In a file no table
has a name twice, whatever the format of the file.
-/

namespace RobotConsole
namespace Json

/-- An object of objects, no name in them twice. -/
structure Tabular (j : Json) : Prop extends Tidy j where
  tables : forall name value, j.under? name = some value -> value.IsObject

theorem tabular_empty : (object []).Tabular where
  toTidy := tidy_empty
  tables := nofun

theorem isObject_laidOver (old : Json) {value : Json} (table : value.IsObject) :
    (laidOver old value).IsObject := by
  obtain ⟨members, rfl⟩ := table
  unfold laidOver
  exact ⟨_, rfl⟩

theorem IsObject.innerOf?_eq {j : Json} (table : j.IsObject) (part : SettingSection) :
    Settings.innerOf? j part =
      match j.under? part.name with
      | none => some []
      | some value => Settings.fieldsOf? (part.slots.map SettingSlot.name) value := by
  obtain ⟨members, rfl⟩ := table
  rfl

namespace Tabular

variable {j value : Json}

theorem layAt (tabular : j.Tabular) {name : String} {path : List String}
    (below : path = [] -> value.IsObject) : (Json.layAt j value (name :: path)).Tabular where
  toTidy := tabular.toTidy.layAt value name path
  tables := by
    intro other new found
    rw [under?_layAt tabular.distinct] at found
    split at found
    · cases found
      cases path with
      | nil => exact isObject_laidOver _ (below rfl)
      | cons name path => exact ⟨_, rfl⟩
    · exact tabular.tables other new found

theorem innerOf?_eq (tabular : j.Tabular) (part : SettingSection) :
    Settings.innerOf? j part = some ((j.under? part.name).getD null).members := by
  rw [tabular.isObject.innerOf?_eq]
  cases found : j.under? part.name with
  | none => rfl
  | some value =>
      obtain ⟨inner, rfl⟩ := tabular.tables part.name value found
      rfl

theorem usable (tabular : j.Tabular) : Settings.Usable j := by
  intro part known
  rw [tabular.innerOf?_eq]
  rfl

theorem valueOf?_eq (tabular : j.Tabular) {field : Settings.Field}
    (known : field ∈ Settings.fields) :
    Settings.valueOf? j field.part field.slot = j.below? field.part field.slot := by
  refine Settings.forall_slots_iff (P := fun part slot _ => Settings.valueOf? j part slot =
    j.below? part slot).1 ?_ field known
  intro part known slot _
  rw [Settings.valueOf?_eq known, tabular.innerOf?_eq, below?_eq]
  rfl

end Tabular
end Json

/-! ## Layers of files -/

namespace Reading

theorem distinct_toJson {r : Reading} (sound : r.Sound) : r.toJson.Distinct := by
  cases sound with
  | @map entries ascending all =>
      show ((entriesToJson entries).map Prod.fst).Nodup
      rw [entriesToJson_eq, List.map_map]
      exact ascending.nodup_keys
  | _ => exact List.nodup_nil

end Reading

namespace Settings

variable {files : FileTree} {path : String} {layer : SettingLayer} {cs : List Char}

theorem tidy_of_read? (read : Toml.read? cs = some layer) : (Json.object layer).Tidy where
  isObject := ⟨layer, rfl⟩
  distinct := (Toml.distinct_of_read? read).1
  inner := fun name value found => (Toml.distinct_of_read? read).2 name value (mem_of_lookup found)

theorem tidy_of_readJson? (read : readJson? cs = some layer) : (Json.object layer).Tidy := by
  unfold readJson? at read
  split at read
  · rename_i entries decoded
    cases read
    obtain ⟨j, -, same⟩ := Wire.exists_of_map (Wire.decodeChars_eq_ok_iff.1 decoded).1
    have sound := Reading.sound_ofJson j
    rw [same] at sound
    refine ⟨⟨_, rfl⟩, Reading.distinct_toJson sound, ?_⟩
    intro name value found
    cases sound with
    | map ascending all =>
        obtain ⟨r, mem, rfl⟩ := Reading.mem_entriesToJson (mem_of_lookup found)
        exact Reading.distinct_toJson (all name r mem)
  · cases read

theorem tidy_of_fileLayer (read : fileLayer files path = .ok layer) :
    (Json.object layer).Tidy := by
  unfold fileLayer at read
  cases found : findFile files path with
  | error e =>
      rw [found] at read
      cases read
  | ok file =>
      obtain ⟨path, format, bytes⟩ := file
      rw [found] at read
      simp only [bind, Except.bind] at read
      split at read
      · cases read
      · split at read
        · rename_i taken
          cases read
          cases format with
          | toml => exact tidy_of_read? taken
          | json => exact tidy_of_readJson? taken
        · cases read

/-! ## Merging the tables of a file -/

/-- The layer is made of tables for the sections. -/
structure SectionTables (layer : SettingLayer) : Prop where
  known : forall entry, entry ∈ layer -> entry.1 ∈ sections.map SettingSection.name
  tables : forall entry, entry ∈ layer -> entry.2.IsObject

instance (j : Json) : Decidable j.IsObject :=
  match j with
  | .object members => isTrue ⟨members, rfl⟩
  | .null | .bool _ | .integer _ | .float _ | .string _ | .array _ => isFalse nofun

instance (layer : SettingLayer) : Decidable (SectionTables layer) :=
  decidable_of_iff (forall entry, entry ∈ layer ->
      entry.1 ∈ sections.map SettingSection.name ∧ entry.2.IsObject)
    ⟨fun all => ⟨fun entry mem => (all entry mem).1, fun entry mem => (all entry mem).2⟩,
      fun made entry mem => ⟨made.known entry mem, made.tables entry mem⟩⟩

theorem path_section {name : String} (known : name ∈ sections.map SettingSection.name) :
    SettingLayer.path name = [name] := by
  have all : forall name, name ∈ sections.map SettingSection.name ->
      SettingLayer.path name = [name] := by
    decide +kernel
  exact all name known

namespace SectionTables

theorem tail {entry : String × Json} (made : SectionTables (entry :: layer)) :
    SectionTables layer where
  known := fun entry mem => made.known entry (List.mem_cons_of_mem _ mem)
  tables := fun entry mem => made.tables entry (List.mem_cons_of_mem _ mem)

theorem layOver_cons {entry : String × Json} (made : SectionTables (entry :: layer)) (j : Json) :
    SettingLayer.layOver j (entry :: layer) =
      SettingLayer.layOver (j.layAt entry.2 [entry.1]) layer := by
  have path := path_section (made.known entry List.mem_cons_self)
  unfold SettingLayer.layOver
  rw [List.foldl_cons, path]

theorem tabular (made : SectionTables layer) {j : Json} (tabular : j.Tabular) :
    (SettingLayer.layOver j layer).Tabular := by
  induction layer generalizing j with
  | nil => exact tabular
  | cons entry rest ih =>
      rw [made.layOver_cons]
      exact ih made.tail (tabular.layAt fun _ => made.tables entry List.mem_cons_self)

theorem under?_layOver (made : SectionTables layer) (distinct : (layer.map Prod.fst).Nodup)
    {j : Json} (tidy : j.Tidy)
    (fresh : forall name, name ∈ layer.map Prod.fst -> j.under? name = none) (name : String) :
    (SettingLayer.layOver j layer).under? name =
      match layer.lookup name with
      | some table => some (Json.null.laidOver table)
      | none => j.under? name := by
  induction layer generalizing j with
  | nil => rfl
  | cons entry rest ih =>
      obtain ⟨other, table⟩ := entry
      obtain ⟨once, distinct⟩ := List.nodup_cons.1 distinct
      have absent : j.under? other = none := fresh other List.mem_cons_self
      have fresh' (name : String) (mem : name ∈ rest.map Prod.fst) :
          (j.layAt table [other]).under? name = none := by
        have differs : name ≠ other := fun same => once (same ▸ mem)
        rw [Json.under?_layAt tidy.distinct, if_neg differs]
        exact fresh name (List.mem_cons_of_mem _ mem)
      rw [made.layOver_cons, ih made.tail distinct (tidy.layAt table other []) fresh',
        Json.under?_layAt tidy.distinct, absent]
      by_cases same : name = other
      · subst same
        rw [lookup_of_fresh once]
        simp [Json.layAt]
      · have differs : (name == other) = false := beq_false_of_ne same
        simp [List.lookup_cons, differs, same]

theorem below?_layOver (made : SectionTables layer) (tidy : (Json.object layer).Tidy)
    (part slot : String) :
    (SettingLayer.layOver (.object []) layer).below? part slot =
      ((Json.object layer).below? part slot).map Json.null.laidOver := by
  unfold Json.below?
  rw [made.under?_layOver tidy.distinct Json.tidy_empty fun _ _ => rfl]
  cases found : layer.lookup part with
  | none =>
      have absent : (Json.object layer).under? part = none := found
      rw [absent]
      rfl
  | some table =>
      have present : (Json.object layer).under? part = some table := found
      obtain ⟨members, rfl⟩ := made.tables _ (mem_of_lookup found)
      rw [present]
      show (Json.laidOver .null (.object members)).under? slot =
        (members.lookup slot).map Json.null.laidOver
      unfold Json.laidOver
      show (Json.layMembers [] members).lookup slot = _
      have distinct : (members.map Prod.fst).Nodup := tidy.inner part _ present
      rw [Json.lookup_layMembers distinct]
      cases members.lookup slot <;> rfl

end SectionTables
end Settings
end RobotConsole
