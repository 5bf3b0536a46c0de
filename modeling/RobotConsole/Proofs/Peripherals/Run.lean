import Mathlib.Data.List.DropRight
import RobotConsole.Proofs.Peripherals.Snapshots

/-!
# Runs of snapshots

What is known of the peripherals is a function of all snapshots so far. A device is there if
the last snapshot of its kind mentions it. Its history goes back to the last snapshot of its
kind that does not: of what was reported for a parameter since then, the newest readings
are kept.
-/

namespace RobotConsole

/-! ## What snapshots say of a device -/

namespace Snapshot

def forKind (kind : DeviceKind) (snapshots : List Snapshot) : List Snapshot :=
  snapshots.filter fun s => s.kind = kind

/-- The snapshots of the kind of a device that come after the last one without the device. -/
def sinceAbsent (id : PeripheralId) (snapshots : List Snapshot) : List Snapshot :=
  (forKind id.kind snapshots).rtakeWhile fun s => s.mentions id.device

/-- What was reported for a parameter in that time. -/
def reported (id : PeripheralId) (name : String) (snapshots : List Snapshot) : List Sample :=
  (sinceAbsent id snapshots).filterMap fun s => s.sample? id.device name

variable {id : PeripheralId} (snapshots : List Snapshot) {s : Snapshot}

theorem forKind_append_of_ne {kind : DeviceKind} (other : s.kind ≠ kind) :
    forKind kind (snapshots ++ [s]) = forKind kind snapshots := by
  simp [forKind, other]

theorem forKind_append_of_eq {kind : DeviceKind} (own : s.kind = kind) :
    forKind kind (snapshots ++ [s]) = forKind kind snapshots ++ [s] := by
  simp [forKind, own]

theorem sinceAbsent_append_of_ne (other : s.kind ≠ id.kind) :
    sinceAbsent id (snapshots ++ [s]) = sinceAbsent id snapshots := by
  unfold sinceAbsent
  rw [forKind_append_of_ne snapshots other]

theorem sinceAbsent_append_of_mentioned (own : s.kind = id.kind) (mentioned : s.mentions id.device) :
    sinceAbsent id (snapshots ++ [s]) = sinceAbsent id snapshots ++ [s] := by
  unfold sinceAbsent
  rw [forKind_append_of_eq snapshots own]
  exact List.rtakeWhile_concat_pos _ _ _ mentioned

theorem sinceAbsent_append_of_missing (own : s.kind = id.kind)
    (missing : ¬ s.mentions id.device) : sinceAbsent id (snapshots ++ [s]) = [] := by
  unfold sinceAbsent
  rw [forKind_append_of_eq snapshots own]
  exact List.rtakeWhile_concat_neg _ _ _ missing

theorem sinceAbsent_ne_nil_iff : sinceAbsent id snapshots ≠ [] ↔
    exists last, (forKind id.kind snapshots).getLast? = some last ∧ last.mentions id.device := by
  unfold sinceAbsent
  cases forKind id.kind snapshots using List.reverseRecOn with
  | nil => simp
  | append_singleton earlier last => simp

variable (name : String)

theorem reported_append_of_ne (other : s.kind ≠ id.kind) :
    reported id name (snapshots ++ [s]) = reported id name snapshots := by
  unfold reported
  rw [sinceAbsent_append_of_ne snapshots other]

theorem reported_append_of_mentioned (own : s.kind = id.kind) (mentioned : s.mentions id.device) :
    reported id name (snapshots ++ [s]) =
      reported id name snapshots ++ (s.sample? id.device name).toList := by
  unfold reported
  rw [sinceAbsent_append_of_mentioned snapshots own mentioned, List.filterMap_append]
  cases found : s.sample? id.device name <;> simp [found]

theorem reported_append_of_missing (own : s.kind = id.kind) (missing : ¬ s.mentions id.device) :
    reported id name (snapshots ++ [s]) = [] := by
  unfold reported
  rw [sinceAbsent_append_of_missing snapshots own missing]
  rfl

theorem reported_ne_nil_iff : reported id name snapshots ≠ [] ↔
    exists s, s ∈ sinceAbsent id snapshots ∧ (s.reading? id.device name).isSome := by
  unfold reported
  simp [List.filterMap_eq_nil_iff, sample?, Option.isSome_iff_ne_none]

end Snapshot

/-! ## What is known after a run -/

namespace Peripherals

open Snapshot

def ofSnapshots (snapshots : List Snapshot) : Peripherals :=
  snapshots.foldl (fun ps s => (ps.receive s).1) {}

theorem ofSnapshots_append_singleton (snapshots : List Snapshot) (s : Snapshot) :
    ofSnapshots (snapshots ++ [s]) = ((ofSnapshots snapshots).receive s).1 :=
  List.foldl_append

theorem tidy_ofSnapshots (snapshots : List Snapshot) : (ofSnapshots snapshots).Tidy := by
  induction snapshots using List.reverseRecOn with
  | nil => exact tidy_empty
  | append_singleton snapshots s ih =>
      rw [ofSnapshots_append_singleton]
      exact ih.receive s

theorem isSome_get?_ofSnapshots (id : PeripheralId) (snapshots : List Snapshot) :
    ((ofSnapshots snapshots).get? id).isSome ↔ sinceAbsent id snapshots ≠ [] := by
  -- By induction on the last snapshot, which alone decides if it is of the kind of the device.
  induction snapshots using List.reverseRecOn with
  | nil =>
      have nothing : sinceAbsent id [] = [] := rfl
      simp [ofSnapshots, get?, Dict.find?, nothing]
  | append_singleton snapshots s ih =>
      rw [ofSnapshots_append_singleton]
      by_cases own : s.kind = id.kind
      · rw [isSome_get?_receive (tidy_ofSnapshots snapshots) s own]
        by_cases mentioned : s.mentions id.device
        · rw [sinceAbsent_append_of_mentioned snapshots own mentioned]
          simp [mentioned]
        · rw [sinceAbsent_append_of_missing snapshots own mentioned]
          simp [mentioned]
      · rw [get?_receive_of_kind_ne _ s own, sinceAbsent_append_of_ne snapshots own]
        exact ih

theorem get?_ofSnapshots_forKind (id : PeripheralId) (snapshots : List Snapshot) :
    (ofSnapshots (forKind id.kind snapshots)).get? id = (ofSnapshots snapshots).get? id := by
  induction snapshots using List.reverseRecOn with
  | nil => rfl
  | append_singleton snapshots s ih =>
      by_cases own : s.kind = id.kind
      · rw [forKind_append_of_eq snapshots own, ofSnapshots_append_singleton,
          ofSnapshots_append_singleton, get?_receive_of_kind (tidy_ofSnapshots _) s own,
          get?_receive_of_kind (tidy_ofSnapshots _) s own, ih]
      · rw [forKind_append_of_ne snapshots own, ofSnapshots_append_singleton,
          get?_receive_of_kind_ne _ s own, ih]

/-! ### Timelines -/

def timelineOf? (samples : List Sample) : Option Timeline :=
  if samples = [] then none else some ⟨keepLast timelineCapacity samples⟩

theorem timelineOf?_append_singleton (samples : List Sample) (sample : Sample) :
    timelineOf? (samples ++ [sample]) = some (((timelineOf? samples).getD {}).push sample) := by
  have kept : timelineOf? (samples ++ [sample]) =
      some ⟨keepLast timelineCapacity (samples ++ [sample])⟩ :=
    if_neg (by simp)
  rw [kept]
  unfold timelineOf?
  split
  · rename_i none
    rw [none]
    rfl
  · rw [Option.getD_some]
    unfold History.push
    rw [keepLast_keepLast_append]

theorem timeline?_ofSnapshots (id : PeripheralId) (name : String) (snapshots : List Snapshot) :
    (ofSnapshots snapshots).timeline? id name = timelineOf? (reported id name snapshots) := by
  induction snapshots using List.reverseRecOn with
  | nil => rfl
  | append_singleton snapshots s ih =>
      rw [ofSnapshots_append_singleton]
      have tidy := tidy_ofSnapshots snapshots
      by_cases own : s.kind = id.kind
      · by_cases mentioned : s.mentions id.device
        · rw [timeline?_receive_of_kind tidy s own mentioned,
            reported_append_of_mentioned snapshots name own mentioned, ih]
          cases s.sample? id.device name with
          | none => simp
          | some sample => exact (timelineOf?_append_singleton _ sample).symm
        · rw [timeline?_receive_of_missing tidy s own mentioned,
            reported_append_of_missing snapshots name own mentioned]
          rfl
      · rw [reported_append_of_ne snapshots name own, ← ih]
        unfold timeline?
        rw [get?_receive_of_kind_ne _ s own]

theorem isSome_timelineOf? (samples : List Sample) :
    (timelineOf? samples).isSome ↔ samples ≠ [] := by
  unfold timelineOf?
  split
  · simp [*]
  · simp [*]

theorem items_timelineOf? {samples : List Sample} {timeline : Timeline}
    (h : timelineOf? samples = some timeline) : timeline.items = samples.rtake 50 := by
  unfold timelineOf? at h
  split at h
  · cases h
  · cases h
    rfl

theorem timeline?_ofSnapshots_append {id : PeripheralId} {name : String}
    (snapshots later : List Snapshot)
    (paused : forall s, s ∈ later -> s.kind = id.kind ->
      s.mentions id.device ∧ s.reading? id.device name = none) :
    (ofSnapshots (snapshots ++ later)).timeline? id name =
      (ofSnapshots snapshots).timeline? id name := by
  induction later using List.reverseRecOn with
  | nil => simp
  | append_singleton later s ih =>
      have earlier := ih fun s mem => paused s (List.mem_append_left _ mem)
      rw [← earlier, timeline?_ofSnapshots, timeline?_ofSnapshots, ← List.append_assoc]
      by_cases own : s.kind = id.kind
      · have here := paused s (by simp) own
        rw [reported_append_of_mentioned _ name own here.1]
        simp [sample?, here.2]
      · rw [reported_append_of_ne _ name own]

/-! ### The store as a function of the run -/

/-- What a store is to know after a run of snapshots. -/
structure Reflects (ps : Peripherals) (snapshots : List Snapshot) : Prop where
  tidy : ps.Tidy
  present : forall id, (ps.get? id).isSome ↔
    exists last, (forKind id.kind snapshots).getLast? = some last ∧ last.mentions id.device
  tracked : forall id name, (ps.timeline? id name).isSome ↔
    exists s, s ∈ sinceAbsent id snapshots ∧ (s.reading? id.device name).isSome
  newest : forall id name timeline, ps.timeline? id name = some timeline ->
    timeline.items = (reported id name snapshots).rtake 50

theorem reflects_ofSnapshots (snapshots : List Snapshot) :
    (ofSnapshots snapshots).Reflects snapshots := by
  constructor
  · exact tidy_ofSnapshots snapshots
  · intro id
    exact (isSome_get?_ofSnapshots id snapshots).trans (sinceAbsent_ne_nil_iff snapshots)
  · intro id name
    rw [timeline?_ofSnapshots, isSome_timelineOf?]
    exact reported_ne_nil_iff snapshots name
  · intro id name timeline found
    rw [timeline?_ofSnapshots] at found
    exact items_timelineOf? found

theorem Reflects.eq {ps qs : Peripherals} {snapshots : List Snapshot} (h : ps.Reflects snapshots)
    (h' : qs.Reflects snapshots) : ps = qs := by
  apply h.tidy.ext h'.tidy
  · intro id
    exact (h.present id).trans (h'.present id).symm
  · intro id name
    apply eq_of_isSome_iff ((h.tracked id name).trans (h'.tracked id name).symm)
    intro timeline timeline' found found'
    have items := (h.newest id name timeline found).trans
      (h'.newest id name timeline' found').symm
    cases timeline
    cases timeline'
    cases items
    rfl

/-- The store is this function of the run. -/
theorem ofSnapshots_characterized (snapshots : List Snapshot) :
    (forall ps : Peripherals, ps = ofSnapshots snapshots ↔ ps.Reflects snapshots) ∧
    (forall id : PeripheralId,
      (ofSnapshots snapshots).get? id = (ofSnapshots (forKind id.kind snapshots)).get? id) ∧
    forall (id : PeripheralId) (name : String) (later : List Snapshot),
      (forall s, s ∈ later -> s.kind = id.kind ->
        s.mentions id.device ∧ s.reading? id.device name = none) ->
      (ofSnapshots (snapshots ++ later)).timeline? id name =
        (ofSnapshots snapshots).timeline? id name := by
  constructor
  · intro ps
    constructor
    · rintro rfl
      exact reflects_ofSnapshots snapshots
    · intro h
      exact h.eq (reflects_ofSnapshots snapshots)
  · constructor
    · intro id
      exact (get?_ofSnapshots_forKind id snapshots).symm
    · intro id name later paused
      exact timeline?_ofSnapshots_append snapshots later paused

/-- The device is away for a snapshot, and its parameter for another one later. -/
example :
    let wheel : PeripheralId := ⟨.smartDevice, { number := 7 }⟩
    let snapshot (readings : ParameterReadings) (ascending : Dict.Ascending readings)
        (timestamp : Int) : Snapshot :=
      ⟨.smartDevice, timestamp, [(wheel.device, readings)], false, List.pairwise_singleton _ _,
        by simpa using ascending⟩
    let reporting := snapshot [("angle", .int 90)] (List.pairwise_singleton _ _)
    let away : Snapshot := ⟨.smartDevice, 20, [], false, List.Pairwise.nil, by simp⟩
    let run := [reporting 10, away, reporting 30, snapshot [] List.Pairwise.nil 40, reporting 50]
    ((ofSnapshots run).timeline? wheel "angle").map (fun t => t.items.map Sample.timestamp) =
      some [30, 50] := by
  decide

end Peripherals
end RobotConsole
