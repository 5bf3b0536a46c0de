import Mathlib.Data.List.Forall2
import RobotConsole.Export
import RobotConsole.Proofs.Console.Histories
import RobotConsole.Proofs.Console.Snapshots
import RobotConsole.Proofs.Device.Text
import RobotConsole.Proofs.Files
import RobotConsole.Proofs.Wire.Form
import RobotConsole.Settings.Layer

/-!
# Exports

The text of an export is read back as what is known after the run: every device that is connected,
in order, with the newest reading of every parameter that it has reported, and how many there are
of them.
-/

namespace RobotConsole

/-! ## What an export says -/

def Json.inner? (outer name : String) (j : Json) : Option Json :=
  (j.member? outer).bind (Json.member? name)

def countOf (kind : DeviceKind) (ids : List PeripheralId) : Nat :=
  ids.countP fun id => id.kind = kind

theorem countOf_add (ids : List PeripheralId) :
    countOf .gamepad ids + countOf .smartDevice ids = ids.length := by
  have other : (fun id : PeripheralId => decide (id.kind = .smartDevice)) =
      fun id => decide (¬ decide (id.kind = .gamepad) = true) := by
    funext id
    cases id.kind <;> rfl
  unfold countOf
  rw [other]
  exact (List.length_eq_countP_add_countP _).symm

/-- The entry of a device: its parameters are those that were reported since it is connected, each
with its newest reading. -/
structure Describes (snapshots : List Snapshot) (id : PeripheralId) (entry : Json) : Prop where
  device : exists text, entry.member? "id" = some (.string text) ∧
    DeviceId.parse text = .ok id.device
  kind : entry.member? "kind" = some (.string id.kind.name)
  params : exists params, entry.member? "params" = some (.object params) ∧
    Dict.Ascending params ∧
    (forall name, (exists value, (name, value) ∈ params) ↔
      Snapshot.reported id name snapshots ≠ []) ∧
    forall name value, (name, value) ∈ params -> exists sample,
      (Snapshot.reported id name snapshots).getLast? = some sample ∧ sample.value.HasForm value

/-- An export after a run, with the devices of its entries. -/
structure Reports (moves : List Move) (s : SessionState) (ids : List PeripheralId)
    (entries : List Json) (j : Json) : Prop where
  ascending : ids.Pairwise PeripheralId.Before
  stored : forall id, id ∈ ids ↔ (s.peripherals.get? id).isSome
  connected : forall id, id ∈ ids ↔ exists last,
    (Snapshot.forKind id.kind (Console.snapshots moves)).getLast? = some last ∧
      last.mentions id.device
  peripherals : j.member? "peripherals" = some (.array entries)
  described : List.Forall₂ (Describes (Console.snapshots moves)) ids entries
  total : j.inner? "summary" "total_peripherals" = some (.integer entries.length)
  gamepads : j.inner? "summary" "gamepads" = some (.integer (countOf .gamepad ids))
  smartDevices : j.inner? "summary" "smart_devices" = some (.integer (countOf .smartDevice ids))
  kinds : countOf .gamepad ids + countOf .smartDevice ids = entries.length
  logEvents : j.inner? "summary" "log_events" = some (.integer s.logs.size)

/-! ## Entries -/

namespace Peripherals

variable {snapshots : List Snapshot} {id : PeripheralId} {p : Peripheral} {name : String}

theorem latest?_timelineOf? {samples : List Sample} {timeline : Timeline}
    (found : timelineOf? samples = some timeline) : timeline.latest? = samples.getLast? := by
  unfold timelineOf? at found
  split at found
  · cases found
  · cases found
    exact getLast?_keepLast (by decide) samples

theorem timeline_mem_iff (stored : (ofSnapshots snapshots).get? id = some p) {timeline : Timeline} :
    (name, timeline) ∈ p.parameters ↔
      timelineOf? (Snapshot.reported id name snapshots) = some timeline := by
  have ascending := (tidy_ofSnapshots snapshots).parameters id p stored
  rw [← timeline?_ofSnapshots, ← ascending.find?_iff]
  unfold timeline?
  rw [stored]
  exact Iff.rfl

theorem mem_latestReadings_iff (stored : (ofSnapshots snapshots).get? id = some p) {value : Json} :
    (name, value) ∈ SessionState.latestReadings p ↔ exists sample,
      (Snapshot.reported id name snapshots).getLast? = some sample ∧
        value = sample.value.toJson := by
  constructor
  · intro mem
    obtain ⟨⟨_, timeline⟩, given, latest⟩ := List.mem_filterMap.1 mem
    obtain ⟨sample, newest, same⟩ := Option.map_eq_some_iff.1 latest
    cases same
    have recorded := latest?_timelineOf? ((timeline_mem_iff stored).1 given)
    exact ⟨sample, recorded ▸ newest, rfl⟩
  · rintro ⟨sample, newest, rfl⟩
    have some : Snapshot.reported id name snapshots ≠ [] := by
      intro none
      rw [none] at newest
      cases newest
    obtain ⟨timeline, found⟩ := Option.isSome_iff_exists.1 ((isSome_timelineOf? _).2 some)
    refine List.mem_filterMap.2 ⟨(name, timeline), (timeline_mem_iff stored).2 found, ?_⟩
    dsimp only
    rw [latest?_timelineOf? found, newest]
    rfl

theorem ascending_latestReadings (stored : (ofSnapshots snapshots).get? id = some p) :
    Dict.Ascending (SessionState.latestReadings p) := by
  refine List.Pairwise.filterMap _ ?_ ((tidy_ofSnapshots snapshots).parameters id p stored)
  intro entry entry' less member found member' found'
  obtain ⟨_, _, rfl⟩ := Option.map_eq_some_iff.1 found
  obtain ⟨_, _, rfl⟩ := Option.map_eq_some_iff.1 found'
  exact less

theorem describes_stored (stored : (ofSnapshots snapshots).get? id = some p) :
    Describes snapshots id (SessionState.peripheralToJson p).reread := by
  have identity := (tidy_ofSnapshots snapshots).identity id p stored
  have read {name : String} {value : Json} :
      (name, value) ∈ Json.rereadMembers (SessionState.latestReadings p) ↔ exists sample,
        (Snapshot.reported id name snapshots).getLast? = some sample ∧
          value = sample.value.toJson.reread := by
    rw [Json.rereadMembers_eq]
    constructor
    · intro mem
      obtain ⟨⟨_, written⟩, given, same⟩ := List.mem_map.1 mem
      cases same
      obtain ⟨sample, newest, rfl⟩ := (mem_latestReadings_iff stored).1 given
      exact ⟨sample, newest, rfl⟩
    · rintro ⟨sample, newest, rfl⟩
      exact List.mem_map.2 ⟨_, (mem_latestReadings_iff stored).2 ⟨sample, newest, rfl⟩, rfl⟩
  constructor
  · exact ⟨id.device.text, by rw [← identity]; rfl, id.device.parse_text⟩
  · rw [← identity]
    rfl
  · refine ⟨Json.rereadMembers (SessionState.latestReadings p), rfl, ?_, ?_, ?_⟩
    · rw [Json.rereadMembers_eq]
      exact List.pairwise_map.2 (ascending_latestReadings stored)
    · intro name
      constructor
      · rintro ⟨value, mem⟩ none
        obtain ⟨sample, newest, _⟩ := read.1 mem
        rw [none] at newest
        cases newest
      · intro some
        exact ⟨_, read.2 ⟨_, List.getLast?_eq_some_getLast some, rfl⟩⟩
    · intro name value mem
      obtain ⟨sample, newest, rfl⟩ := read.1 mem
      exact ⟨sample, newest, Reading.hasForm_reread sample.value⟩

theorem countOf_entries {ps : Peripherals} (tidy : ps.Tidy) (kind : DeviceKind) :
    countOf kind (ps.entries.map Prod.fst) = (ps.ofKind kind).length := by
  unfold countOf ofKind sorted
  rw [← List.countP_eq_length_filter, List.countP_map, List.countP_map]
  apply List.countP_congr
  rintro ⟨id, p⟩ mem
  have identity : p.id = id := tidy.identity id p (tidy.ascending.find?_of_mem mem)
  rw [Function.comp_apply, Function.comp_apply, identity]

end Peripherals

/-! ## The whole text -/

namespace Json

variable {n : Nat} {members : List (String × Json)}

theorem sized_object (all : forall member, member ∈ members -> member.2.Sized) :
    Sized (object members) :=
  .object fun name value mem => all (name, value) mem

theorem sized_count (few : n < Numeric.wordSize 64) : Sized (integer n) :=
  .integer (by omega) (by exact_mod_cast few)

theorem depth_object_le (all : forall member, member ∈ members -> member.2.depth ≤ n) :
    depth (object members) ≤ n + 1 :=
  depth_object_le_iff.2 fun name value mem => all (name, value) mem

end Json

namespace SessionState

section

variable {n : Nat} (s : SessionState)
  (held : forall p, p ∈ s.peripherals.sorted -> forall member, member ∈ latestReadings p ->
    member.2.Sized ∧ member.2.depth ≤ n)

theorem length_ofKind_le (ps : Peripherals) (kind : DeviceKind) :
    (ps.ofKind kind).length ≤ ps.size :=
  (List.length_filter_le _ _).trans (List.length_map _).le

include held

theorem sized_toJson (few : s.peripherals.size < Numeric.wordSize 64)
    (logs : s.logs.size < Numeric.wordSize 64) : s.toJson.Sized := by
  have connection : (linkToJson s.link).Sized := by
    apply Json.sized_object
    simp only [List.forall_mem_cons]
    refine ⟨?_, .bool _, .string _, .float _, .string _, nofun⟩
    cases s.link.alliance with
    | none => exact .null
    | some alliance => exact .string _
  have entries : Json.Sized (.array (s.peripherals.sorted.map peripheralToJson)) := by
    apply Json.Sized.array
    intro entry mem
    obtain ⟨p, given, rfl⟩ := List.mem_map.1 mem
    apply Json.sized_object
    simp only [List.forall_mem_cons]
    refine ⟨.string _, .string _, ?_, .string _, nofun⟩
    exact Json.sized_object fun member mem => (held p given member mem).1
  have counted (kind : DeviceKind) :
      Json.Sized (.integer (s.peripherals.ofKind kind).length) :=
    Json.sized_count ((length_ofKind_le _ kind).trans_lt few)
  apply Json.sized_object
  simp only [List.forall_mem_cons]
  refine ⟨connection, entries, Json.sized_object ?_, nofun⟩
  simp only [List.forall_mem_cons]
  exact ⟨counted .gamepad, Json.sized_count logs, counted .smartDevice, Json.sized_count few, nofun⟩

theorem depth_toJson_le : s.toJson.depth ≤ n + 4 := by
  have connection : (linkToJson s.link).depth ≤ n + 3 := by
    apply Json.depth_object_le
    simp only [List.forall_mem_cons]
    refine ⟨?_, Nat.zero_le _, Nat.zero_le _, Nat.zero_le _, Nat.zero_le _, nofun⟩
    cases s.link.alliance <;> exact Nat.zero_le _
  have entries : Json.depth (.array (s.peripherals.sorted.map peripheralToJson)) ≤ n + 3 := by
    apply Json.depth_array_le_iff.2
    intro entry mem
    obtain ⟨p, given, rfl⟩ := List.mem_map.1 mem
    apply Json.depth_object_le
    simp only [List.forall_mem_cons]
    refine ⟨Nat.zero_le _, Nat.zero_le _, ?_, Nat.zero_le _, nofun⟩
    exact Json.depth_object_le fun member mem => (held p given member mem).2
  apply Json.depth_object_le
  simp only [List.forall_mem_cons]
  refine ⟨connection, entries, (Json.depth_object_le ?_).trans (show 1 ≤ n + 3 by omega), nofun⟩
  simp only [List.forall_mem_cons]
  exact ⟨Nat.zero_le _, Nat.zero_le _, Nat.zero_le _, Nat.zero_le _, nofun⟩

end

end SessionState

namespace Console

section

variable {n : Nat} {moves : List Move} (settings : Settings) (hasLogDisplay : Bool)

theorem held_of_play (sound : SoundBatches n moves) :
    forall p, p ∈ ((fresh settings hasLogDisplay).play moves).state.peripherals.sorted ->
      forall member, member ∈ SessionState.latestReadings p ->
        member.2.Sized ∧ member.2.depth ≤ n := by
  rw [peripherals_play settings hasLogDisplay sound]
  intro p mem member given
  obtain ⟨⟨id, p⟩, entry, rfl⟩ := List.mem_map.1 mem
  have stored : (Peripherals.ofSnapshots (snapshots moves)).get? id = some p :=
    (Peripherals.tidy_ofSnapshots _).ascending.find?_of_mem entry
  obtain ⟨sample, newest, same⟩ := (Peripherals.mem_latestReadings_iff stored).1 given
  have reading := sound_of_reported sound (List.mem_of_getLast? newest)
  rw [same]
  exact ⟨Reading.sized_toJson reading.sound, reading.shallow⟩

theorem logs_size_le :
    ((fresh settings hasLogDisplay).play moves).state.logs.size ≤ 200 := by
  unfold History.size
  rw [logs_play, length_keepLast]
  exact Nat.min_le_left _ _

theorem reports_play (sound : SoundBatches n moves) :
    let s := ((fresh settings hasLogDisplay).play moves).state
    exists ids entries, Reports moves s ids entries s.toJson.reread := by
  intro s
  have store : s.peripherals = .ofSnapshots (snapshots moves) :=
    peripherals_play settings hasLogDisplay sound
  have tidy := Peripherals.tidy_ofSnapshots (snapshots moves)
  rw [← store] at tidy
  have stored (id : PeripheralId) :
      id ∈ s.peripherals.entries.map Prod.fst ↔ (s.peripherals.get? id).isSome := by
    rw [Option.isSome_iff_exists, List.mem_map]
    constructor
    · rintro ⟨⟨_, p⟩, mem, rfl⟩
      exact ⟨p, tidy.ascending.find?_of_mem mem⟩
    · rintro ⟨p, found⟩
      exact ⟨(id, p), Dict.mem_of_find? found, rfl⟩
  refine ⟨s.peripherals.entries.map Prod.fst,
    Json.rereadItems (s.peripherals.sorted.map SessionState.peripheralToJson), ?_⟩
  have length : (Json.rereadItems (s.peripherals.sorted.map SessionState.peripheralToJson)).length =
      s.peripherals.size := by
    rw [Json.rereadItems_eq, List.length_map, List.length_map]
    exact List.length_map _
  constructor
  · exact List.pairwise_map.2 (tidy.ascending.imp PeripheralId.before_of_compare)
  · exact stored
  · intro id
    rw [stored id, store, Peripherals.isSome_get?_ofSnapshots, Snapshot.sinceAbsent_ne_nil_iff]
  · rfl
  · unfold Peripherals.sorted
    rw [Json.rereadItems_eq, List.map_map, List.map_map, List.forall₂_map_left_iff,
      List.forall₂_map_right_iff, List.forall₂_same]
    intro entry mem
    apply Peripherals.describes_stored
    rw [← store]
    exact tidy.ascending.find?_of_mem mem
  · rw [length]
    rfl
  · rw [Peripherals.countOf_entries tidy]
    rfl
  · rw [Peripherals.countOf_entries tidy]
    rfl
  · rw [countOf_add, length]
    exact List.length_map _
  · rfl

/-- Whatever a console has gone through, its state can be exported: only writing the file can fail.
The text that is then in the file is read back, by a reader that opens four levels more than the
readings have, as what is known after the run. (Readings that came as text have at most 123 levels,
and the console's own reader opens 127.) -/
theorem export_reads_back (sound : SoundBatches n moves)
    (counted : ((fresh settings hasLogDisplay).play moves).state.peripherals.size <
      Numeric.wordSize 64) :
    let c := (fresh settings hasLogDisplay).play moves
    exists text j ids entries,
      (forall files path, c.exportState files path = (files.writeText path text).map fun files =>
        (c.say (.info ("Exported session state to " ++ path)), files)) ∧
      (forall files path c' files', c.exportState files path = .ok (c', files') ->
        files'.readText path = .ok text) ∧
      Json.Draft.readValue (2 * text.toList.length + 2) (n + 4) text.toList = (.ofJson j, []) ∧
      Reports moves c.state ids entries j := by
  intro c
  obtain ⟨ids, entries, reports⟩ := reports_play settings hasLogDisplay sound
  have held := held_of_play settings hasLogDisplay sound
  have logs : c.state.logs.size < Numeric.wordSize 64 :=
    (logs_size_le settings hasLogDisplay).trans_lt (by decide)
  have written (files : FileTree) (path : String) : c.exportState files path =
      (files.writeText path c.state.toJson.pretty).map fun files =>
        (c.say (.info ("Exported session state to " ++ path)), files) := by
    unfold exportState
    cases files.writeText path c.state.toJson.pretty <;> rfl
  refine ⟨c.state.toJson.pretty, c.state.toJson.reread, ids, entries, written, ?_, ?_, reports⟩
  · intro files path c' files' done
    rw [written] at done
    cases wrote : files.writeText path c.state.toJson.pretty with
    | error e =>
        rw [wrote] at done
        cases done
    | ok after =>
        rw [wrote] at done
        cases done
        exact FileTree.readText_of_writeText wrote
  · have spelled : Json.Spells c.state.toJson.pretty.toList c.state.toJson.reread := by
      unfold Json.pretty
      rw [String.toList_ofList]
      exact Json.spells_prettyChars (c.state.sized_toJson held counted logs) 0
    exact Json.Draft.readValue_of_spells spelled
      (Json.depth_reread_le (c.state.depth_toJson_le held)) (by omega)

end

/-- A gamepad, a wheel that reports floats of both sorts under a name that needs escapes, and a log
event, read back by the console's own reader. -/
theorem export_reads_back_of_wheel :
    let gamepad : TelemetryBatch :=
      { kind := .gamepad, samples := [({ number := 0 }, [("button_a", .bool true)])] }
    let wheel : TelemetryBatch :=
      { kind := .smartDevice
        samples := [({ number := 7 },
          [("\"angle\"\n", .list [.float 0.1, .float (0.0 / 0.0)]), ("ticks", .int (-9))])] }
    let moves : List Move := [.apply 0 (.telemetry wheel), .apply 5 (.telemetry gamepad),
      .apply 9 (.log { timestamp := 9, level := .info, message := "ready" })]
    let c := (fresh {} true).play moves
    SoundBatches 123 moves ∧ c.state.peripherals.size < Numeric.wordSize 64 ∧
    exists text j ids entries,
      (forall files path, c.exportState files path = (files.writeText path text).map fun files =>
        (c.say (.info ("Exported session state to " ++ path)), files)) ∧
      (forall files path c' files', c.exportState files path = .ok (c', files') ->
        files'.readText path = .ok text) ∧
      Json.Draft.read text.toList = (.ofJson j, []) ∧ Reports moves c.state ids entries j := by
  intro gamepad wheel moves c
  have sound : SoundBatches 123 moves := by
    have each (batch : TelemetryBatch) (device : DeviceId) (readings : ParameterReadings)
        (untimed : batch.timestamp? = none) (one : batch.samples = [(device, readings)])
        (ascending : Dict.Ascending readings)
        (all : forall name r, (name, r) ∈ readings -> r.SoundWithin 123) :
        batch.SoundWithin 123 := by
      refine ⟨fun t stamp => absurd (untimed.symm.trans stamp) nofun, ?_⟩
      rw [one]
      refine ⟨List.pairwise_singleton _ _, ?_⟩
      intro id readings' mem
      cases List.mem_singleton.1 mem
      exact ⟨ascending, all⟩
    intro now batch mem
    simp only [moves, List.mem_cons, List.not_mem_nil, or_false, Move.apply.injEq] at mem
    rcases mem with ⟨_, same⟩ | ⟨_, same⟩ | ⟨_, same⟩
    · cases same
      refine each wheel _ _ rfl rfl (by decide) ?_
      intro name r mem
      simp only [List.mem_cons, List.not_mem_nil, or_false, Prod.mk.injEq] at mem
      rcases mem with ⟨_, rfl⟩ | ⟨_, rfl⟩
      · refine ⟨.list ?_, by decide⟩
        intro item mem
        simp only [List.mem_cons, List.not_mem_nil, or_false] at mem
        rcases mem with rfl | rfl
        · exact .float _
        · exact .float _
      · exact ⟨.int (by decide), by decide⟩
    · cases same
      refine each gamepad _ _ rfl rfl (by decide) ?_
      intro name r mem
      cases List.mem_singleton.1 mem
      exact ⟨.bool true, by decide⟩
    · cases same
  have counted : c.state.peripherals.size < Numeric.wordSize 64 := by
    decide +kernel
  exact ⟨sound, counted, export_reads_back {} true sound counted⟩

end Console

end RobotConsole
