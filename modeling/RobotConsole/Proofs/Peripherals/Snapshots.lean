import RobotConsole.Peripherals
import RobotConsole.Proofs.Device.Order
import RobotConsole.Proofs.Dict.Lookup

/-!
# Snapshots

What a snapshot makes of a store. For the devices of its kind, what is known afterwards is
what it mentions, with the readings it brings added to what was known before; all other
devices stay as they are.
-/

namespace RobotConsole

/-- One snapshot of all devices of a kind. -/
structure Snapshot where
  kind : DeviceKind
  timestamp : Int
  samples : SampleMap
  disconnect : Bool := false
  devicesAscending : Dict.Ascending samples
  namesAscending : forall entry, entry ∈ samples -> Dict.Ascending entry.2

namespace Snapshot

def mentions (s : Snapshot) (device : DeviceId) : Bool :=
  Peripherals.mentions s.samples device

def reading? (s : Snapshot) (device : DeviceId) (name : String) : Option Reading :=
  (Dict.find? device s.samples).bind (Dict.find? name)

def sample? (s : Snapshot) (device : DeviceId) (name : String) : Option Sample :=
  (s.reading? device name).map fun value => ⟨s.timestamp, value⟩

end Snapshot

/-! ## Recording readings -/

namespace Peripheral

theorem parameters_record (p : Peripheral) (timestamp : Int) (readings : ParameterReadings) :
    (p.record timestamp readings).parameters =
      Dict.merge (fun name => name) (fun reading (old : Option Timeline) =>
        (old.getD {}).push ⟨timestamp, reading.2⟩) readings p.parameters :=
  rfl

theorem parameter?_record (p : Peripheral) (timestamp : Int) (readings : ParameterReadings)
    (known : Dict.Ascending p.parameters) (distinct : Dict.Ascending readings) (name : String) :
    (p.record timestamp readings).parameter? name =
      match Dict.find? name readings with
      | some value => some (((p.parameter? name).getD {}).push ⟨timestamp, value⟩)
      | none => p.parameter? name := by
  unfold parameter?
  rw [parameters_record, Dict.find?_merge _ _ distinct known fun _ _ same => same]
  cases Dict.find? name readings <;> rfl

end Peripheral

namespace Peripherals

open Snapshot

def timeline? (ps : Peripherals) (id : PeripheralId) (name : String) : Option Timeline :=
  (ps.get? id).bind fun p => p.parameter? name

/-! ## Well-formed stores -/

/-- Devices and parameters in ascending order, and every device under its own identity. -/
structure Tidy (ps : Peripherals) : Prop where
  ascending : Dict.Ascending ps.entries
  identity : forall id p, ps.get? id = some p -> p.id = id
  parameters : forall id p, ps.get? id = some p -> Dict.Ascending p.parameters

theorem tidy_empty : Tidy {} where
  ascending := Dict.ascending_nil
  identity := by
    intro id p found
    cases found
  parameters := by
    intro id p found
    cases found

theorem Tidy.ext {ps qs : Peripherals} (h : ps.Tidy) (h' : qs.Tidy)
    (present : forall id, (ps.get? id).isSome ↔ (qs.get? id).isSome)
    (timelines : forall id name, ps.timeline? id name = qs.timeline? id name) : ps = qs := by
  have same (id : PeripheralId) : ps.get? id = qs.get? id := by
    apply eq_of_isSome_iff (present id)
    intro p q found found'
    have ids : p.id = q.id := (h.identity id p found).trans (h'.identity id q found').symm
    have parameters : p.parameters = q.parameters := by
      apply Dict.Ascending.ext (h.parameters id p found) (h'.parameters id q found')
      intro name
      have timelines := timelines id name
      unfold timeline? at timelines
      rw [found, found'] at timelines
      exact timelines
    cases p
    cases q
    cases ids
    cases parameters
    rfl
  have entries : ps.entries = qs.entries := Dict.Ascending.ext h.ascending h'.ascending same
  cases ps
  cases qs
  cases entries
  rfl

/-! ## One snapshot -/

theorem entries_merge (ps : Peripherals) (kind : DeviceKind) (timestamp : Int)
    (samples : SampleMap) :
    (ps.merge kind timestamp samples).entries =
      Dict.merge (fun device => (⟨kind, device⟩ : PeripheralId))
        (fun entry old => (old.getD ⟨⟨kind, entry.1⟩, []⟩).record timestamp entry.2) samples
        ps.entries :=
  rfl

theorem get?_merge_of_kind_ne (ps : Peripherals) {kind : DeviceKind} (timestamp : Int)
    (samples : SampleMap) {id : PeripheralId} (other : kind ≠ id.kind) :
    (ps.merge kind timestamp samples).get? id = ps.get? id := by
  unfold get?
  rw [entries_merge]
  apply Dict.find?_merge_of_ne
  intro entry _ same
  cases same
  exact other rfl

theorem get?_merge {ps : Peripherals} (h : ps.Tidy) (kind : DeviceKind) (timestamp : Int)
    {samples : SampleMap} (distinct : Dict.Ascending samples) (device : DeviceId) :
    (ps.merge kind timestamp samples).get? ⟨kind, device⟩ =
      match Dict.find? device samples with
      | some readings =>
          some (((ps.get? ⟨kind, device⟩).getD ⟨⟨kind, device⟩, []⟩).record timestamp readings)
      | none => ps.get? ⟨kind, device⟩ := by
  unfold get?
  rw [entries_merge, Dict.find?_merge _ _ distinct h.ascending]
  · cases Dict.find? device samples <;> rfl
  · intro first second same
    cases same
    rfl

theorem get?_evict (ps : Peripherals) (kind : DeviceKind) (samples : SampleMap)
    (id : PeripheralId) :
    (ps.evict kind samples).get? id =
      if id.kind ≠ kind || mentions samples id.device then ps.get? id else none :=
  Dict.find?_filter (fun key : PeripheralId => key.kind ≠ kind || mentions samples key.device)
    ps.entries id

theorem get?_applySnapshot_of_kind_ne (ps : Peripherals) {kind : DeviceKind} (timestamp : Int)
    (samples : SampleMap) {id : PeripheralId} (other : kind ≠ id.kind) :
    (ps.applySnapshot kind timestamp samples).get? id = ps.get? id := by
  have kept : (id.kind ≠ kind || mentions samples id.device) = true := by
    simp [other.symm]
  unfold applySnapshot
  rw [get?_evict, if_pos kept]
  exact ps.get?_merge_of_kind_ne timestamp samples other

theorem ascending_applySnapshot {ps : Peripherals} (h : Dict.Ascending ps.entries)
    (kind : DeviceKind) (timestamp : Int) (samples : SampleMap) :
    Dict.Ascending (ps.applySnapshot kind timestamp samples).entries := by
  have merged : Dict.Ascending (ps.merge kind timestamp samples).entries := h.merge _ _ _
  exact merged.filter _

theorem get?_applySnapshot_comm {ps : Peripherals} (h : Dict.Ascending ps.entries)
    {kind kind' : DeviceKind} (differ : kind ≠ kind') (timestamp timestamp' : Int)
    (samples samples' : SampleMap) {id : PeripheralId} (other : kind' ≠ id.kind) :
    ((ps.applySnapshot kind timestamp samples).applySnapshot kind' timestamp' samples').get? id =
      ((ps.applySnapshot kind' timestamp' samples').applySnapshot kind timestamp samples).get?
        id := by
  have merged := Dict.find?_merge_congr (P := fun id : PeripheralId => kind' ≠ id.kind)
    (fun device => (⟨kind, device⟩ : PeripheralId))
    (fun entry old => (old.getD ⟨⟨kind, entry.1⟩, []⟩).record timestamp entry.2) samples h
    (ascending_applySnapshot h kind' timestamp' samples') (fun _ _ => differ.symm)
    (fun id other => (get?_applySnapshot_of_kind_ne ps timestamp' samples' other).symm) id other
  rw [get?_applySnapshot_of_kind_ne _ timestamp' samples' other]
  unfold applySnapshot
  rw [get?_evict _ kind, get?_evict _ kind]
  split
  · exact merged
  · rfl

/-- Snapshots of different kinds may come in either order. -/
theorem applySnapshot_comm {ps : Peripherals} (h : Dict.Ascending ps.entries)
    {kind kind' : DeviceKind} (differ : kind ≠ kind') (timestamp timestamp' : Int)
    (samples samples' : SampleMap) :
    (ps.applySnapshot kind timestamp samples).applySnapshot kind' timestamp' samples' =
      (ps.applySnapshot kind' timestamp' samples').applySnapshot kind timestamp samples := by
  have first := ascending_applySnapshot h kind timestamp samples
  have second := ascending_applySnapshot h kind' timestamp' samples'
  apply congrArg Peripherals.mk
  apply Dict.Ascending.ext (ascending_applySnapshot first kind' timestamp' samples')
    (ascending_applySnapshot second kind timestamp samples)
  intro id
  by_cases own : kind' = id.kind
  · exact (get?_applySnapshot_comm h differ.symm timestamp' timestamp samples' samples
      (own ▸ differ)).symm
  · exact get?_applySnapshot_comm h differ timestamp timestamp' samples samples' own

/-- The store after a snapshot, and whether the snapshot counts as an arrival. -/
def receive (ps : Peripherals) (s : Snapshot) : Peripherals × Bool :=
  (ps.applySnapshot s.kind s.timestamp s.samples, countsAsArrival s.kind s.disconnect)

theorem get?_receive_of_kind_ne (ps : Peripherals) (s : Snapshot) {id : PeripheralId}
    (other : s.kind ≠ id.kind) : (ps.receive s).1.get? id = ps.get? id :=
  ps.get?_applySnapshot_of_kind_ne s.timestamp s.samples other

theorem get?_receive_of_kind {ps : Peripherals} (h : ps.Tidy) (s : Snapshot) {id : PeripheralId}
    (own : s.kind = id.kind) :
    (ps.receive s).1.get? id =
      (Dict.find? id.device s.samples).map fun readings =>
        ((ps.get? id).getD ⟨id, []⟩).record s.timestamp readings := by
  rcases id with ⟨kind, device⟩
  cases own
  unfold receive applySnapshot
  rw [get?_evict, get?_merge h s.kind s.timestamp s.devicesAscending device]
  cases found : Dict.find? device s.samples with
  | none => simp [mentions, found]
  | some readings => simp [mentions, found]

theorem isSome_get?_receive {ps : Peripherals} (h : ps.Tidy) (s : Snapshot) {id : PeripheralId}
    (own : s.kind = id.kind) : ((ps.receive s).1.get? id).isSome = s.mentions id.device := by
  rw [get?_receive_of_kind h s own, Option.isSome_map]
  rfl

theorem Tidy.receive {ps : Peripherals} (h : ps.Tidy) (s : Snapshot) : (ps.receive s).1.Tidy := by
  -- What the readings are added to is an old peripheral, or a new one that is still empty.
  have old (id : PeripheralId) : ((ps.get? id).getD ⟨id, []⟩).id = id ∧
      Dict.Ascending ((ps.get? id).getD ⟨id, []⟩).parameters := by
    cases found : ps.get? id with
    | none => exact ⟨rfl, Dict.ascending_nil⟩
    | some p => exact ⟨h.identity id p found, h.parameters id p found⟩
  have each (id : PeripheralId) (p : Peripheral) (found : (ps.receive s).1.get? id = some p) :
      p.id = id ∧ Dict.Ascending p.parameters := by
    by_cases own : s.kind = id.kind
    · rw [get?_receive_of_kind h s own] at found
      rcases Option.map_eq_some_iff.1 found with ⟨readings, _, rfl⟩
      constructor
      · exact (old id).1
      · rw [Peripheral.parameters_record]
        exact (old id).2.merge _ _ _
    · rw [get?_receive_of_kind_ne ps s own] at found
      exact ⟨h.identity id p found, h.parameters id p found⟩
  constructor
  · exact ascending_applySnapshot h.ascending s.kind s.timestamp s.samples
  · intro id p found
    exact (each id p found).1
  · intro id p found
    exact (each id p found).2

theorem timeline?_receive_of_kind {ps : Peripherals} (h : ps.Tidy) (s : Snapshot)
    {id : PeripheralId} (own : s.kind = id.kind) (mentioned : s.mentions id.device) (name : String) :
    (ps.receive s).1.timeline? id name =
      match s.sample? id.device name with
      | some sample => some (((ps.timeline? id name).getD {}).push sample)
      | none => ps.timeline? id name := by
  rcases Option.isSome_iff_exists.1 mentioned with ⟨readings, given⟩
  have distinct : Dict.Ascending readings := s.namesAscending _ (Dict.mem_of_find? given)
  unfold timeline? sample? reading?
  rw [get?_receive_of_kind h s own, given]
  simp only [Option.map_some, Option.bind_some]
  cases found : ps.get? id with
  | none =>
      rw [Option.getD_none, Peripheral.parameter?_record _ _ _ Dict.ascending_nil distinct]
      cases Dict.find? name readings <;> rfl
  | some p =>
      rw [Option.getD_some, Peripheral.parameter?_record _ _ _ (h.parameters id p found) distinct]
      cases Dict.find? name readings <;> rfl

theorem timeline?_receive_of_missing {ps : Peripherals} (h : ps.Tidy) (s : Snapshot)
    {id : PeripheralId} (own : s.kind = id.kind) (missing : ¬ s.mentions id.device)
    (name : String) : (ps.receive s).1.timeline? id name = none := by
  have absent : (ps.receive s).1.get? id = none := by
    rw [← Option.not_isSome_iff_eq_none, isSome_get?_receive h s own]
    exact missing
  unfold timeline?
  rw [absent]
  rfl

end Peripherals
end RobotConsole
