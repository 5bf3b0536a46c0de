import RobotConsole.Proofs.Peripherals.Run

/-!
# Listings of peripherals

What is listed after a run of snapshots: each peripheral that is stored, once and under its own
identity, gamepads before smart devices and each kind in the order of the device numbers.
-/

namespace RobotConsole

/-! ## Lists in an order -/

section

variable {α : Type} {l : List α}

theorem filter_append_filter_not {p : α -> Bool}
    (first : l.Pairwise fun a b => p b = true -> p a = true) :
    l.filter p ++ l.filter (fun a => !p a) = l := by
  induction l with
  | nil => rfl
  | cons a rest ih =>
      obtain ⟨ahead, tail⟩ := List.pairwise_cons.1 first
      by_cases has : p a = true
      · rw [List.filter_cons_of_pos has, List.filter_cons_of_neg (by simp [has]),
          List.cons_append, ih tail]
      · have none (b : α) (mem : b ∈ rest) : ¬ p b = true := fun later => has (ahead b mem later)
        have all (b : α) (mem : b ∈ a :: rest) : (!p b) = true := by
          rcases List.mem_cons.1 mem with rfl | mem
          · simpa using has
          · simpa using none b mem
        rw [List.filter_cons_of_neg has, List.filter_eq_nil_iff.2 none, List.filter_eq_self.2 all]
        rfl

theorem filter_key_isInfix {key : α -> Nat} (ascending : l.Pairwise fun a b => key a ≤ key b)
    (k : Nat) : l.filter (fun a => key a = k) <:+: l := by
  have upTo : l.filter (fun a => key a ≤ k) ++ l.filter (fun a => !decide (key a ≤ k)) = l := by
    apply filter_append_filter_not
    apply ascending.imp
    intro a b keys
    simp only [decide_eq_true_eq]
    omega
  have below : (l.filter fun a => key a ≤ k).filter (fun a => key a < k) ++
      (l.filter fun a => key a ≤ k).filter (fun a => !decide (key a < k)) =
        l.filter fun a => key a ≤ k := by
    apply filter_append_filter_not
    apply (ascending.filter _).imp
    intro a b keys
    simp only [decide_eq_true_eq]
    omega
  have same : (l.filter fun a => key a ≤ k).filter (fun a => !decide (key a < k)) =
      l.filter fun a => key a = k := by
    rw [List.filter_filter]
    apply List.filter_congr
    intro a _
    rw [Bool.eq_iff_iff]
    simp only [Bool.and_eq_true, Bool.not_eq_true', decide_eq_false_iff_not, decide_eq_true_eq]
    omega
  rw [same] at below
  exact ⟨_, _, (congrArg (· ++ _) below).trans upTo⟩

end

namespace Peripherals

/-! ## Tidy stores -/

section

variable {ps : Peripherals} (tidy : ps.Tidy)

include tidy

theorem Tidy.id_of_mem {entry : PeripheralId × Peripheral} (mem : entry ∈ ps.entries) :
    entry.2.id = entry.1 :=
  tidy.identity entry.1 entry.2 (tidy.ascending.find?_of_mem mem)

theorem Tidy.get?_iff_mem_sorted (id : PeripheralId) (p : Peripheral) :
    ps.get? id = some p ↔ p ∈ ps.sorted ∧ p.id = id := by
  constructor
  · intro found
    have mem : (id, p) ∈ ps.entries := Dict.mem_of_find? found
    exact ⟨List.mem_map_of_mem mem, tidy.identity id p found⟩
  · rintro ⟨mem, rfl⟩
    obtain ⟨entry, stored, rfl⟩ := List.mem_map.1 mem
    rw [tidy.id_of_mem stored]
    exact tidy.ascending.find?_of_mem stored

theorem Tidy.filter_sorted (id : PeripheralId) :
    ps.sorted.filter (fun p => p.id = id) = (ps.get? id).toList := by
  have own : ps.entries.filter (fun entry => entry.2.id = id) =
      ps.entries.filter (fun entry => entry.1 = id) := by
    apply List.filter_congr
    intro entry mem
    rw [tidy.id_of_mem mem]
  unfold sorted get?
  rw [List.filter_map, ← tidy.ascending.filter_key id, ← own]
  rfl

theorem Tidy.sorted_ascending : ps.sorted.Pairwise fun p q => p.id.Before q.id := by
  apply List.pairwise_map.2
  apply tidy.ascending.imp_of_mem
  intro a b mem mem' less
  rw [tidy.id_of_mem mem, tidy.id_of_mem mem']
  exact PeripheralId.before_of_compare less

theorem Tidy.sorted_eq_append : ps.sorted = ps.ofKind .gamepad ++ ps.ofKind .smartDevice := by
  have first : ps.sorted.Pairwise fun p q =>
      decide (q.id.kind = .gamepad) = true -> decide (p.id.kind = .gamepad) = true := by
    apply tidy.sorted_ascending.imp
    rintro p q (⟨gamepad, -⟩ | ⟨same, -⟩)
    · simp [gamepad]
    · simp [same]
  have other : (fun p : Peripheral => decide (p.id.kind = .smartDevice)) =
      fun p => !decide (p.id.kind = .gamepad) := by
    funext p
    cases p.id.kind <;> rfl
  unfold ofKind
  rw [other]
  exact (filter_append_filter_not first).symm

end

/-! ## Timelines -/

theorem size_timeline_ofSnapshots {id : PeripheralId} {name : String} {snapshots : List Snapshot}
    {timeline : Timeline} (found : (ofSnapshots snapshots).timeline? id name = some timeline) :
    1 ≤ timeline.size ∧ timeline.size ≤ 50 := by
  rw [timeline?_ofSnapshots] at found
  have reported : Snapshot.reported id name snapshots ≠ [] :=
    (isSome_timelineOf? _).1 (Option.isSome_iff_exists.2 ⟨timeline, found⟩)
  have some : 0 < (Snapshot.reported id name snapshots).length := List.length_pos_iff.2 reported
  have size : timeline.size = min 50 (Snapshot.reported id name snapshots).length := by
    unfold History.size
    rw [items_timelineOf? found]
    exact length_keepLast 50 _
  omega

/-! ## Stores after a run -/

/-- What a store holds, and how it is listed. -/
structure Listed (ps : Peripherals) : Prop where
  keyed : forall entry, entry ∈ ps.entries -> entry.2.id = entry.1
  filled : forall entry, entry ∈ ps.entries -> forall parameter, parameter ∈ entry.2.parameters ->
    1 ≤ parameter.2.size ∧ parameter.2.size ≤ 50
  once : forall id, ps.sorted.filter (fun p => p.id = id) = (ps.get? id).toList
  ascending : ps.sorted.Pairwise fun p q => p.id.Before q.id
  ofKind : forall kind, (ps.ofKind kind).Sublist ps.sorted ∧
    forall p, p ∈ ps.ofKind kind ↔ p ∈ ps.sorted ∧ p.id.kind = kind
  grouped : ps.sorted = ps.ofKind .gamepad ++ ps.ofKind .smartDevice
  size : ps.size = (ps.ofKind .gamepad).length + (ps.ofKind .smartDevice).length
  found : forall id p, ps.get? id = some p ↔ p ∈ ps.sorted ∧ p.id = id

theorem listed_ofSnapshots (snapshots : List Snapshot) : (ofSnapshots snapshots).Listed := by
  have tidy := tidy_ofSnapshots snapshots
  constructor
  · intro entry mem
    exact tidy.id_of_mem mem
  · intro entry mem parameter member
    have stored : (ofSnapshots snapshots).get? entry.1 = some entry.2 :=
      tidy.ascending.find?_of_mem mem
    have recorded : entry.2.parameter? parameter.1 = some parameter.2 :=
      (tidy.parameters entry.1 entry.2 stored).find?_of_mem member
    have tracked : (ofSnapshots snapshots).timeline? entry.1 parameter.1 = some parameter.2 := by
      unfold timeline?
      rw [stored]
      exact recorded
    exact size_timeline_ofSnapshots tracked
  · exact tidy.filter_sorted
  · exact tidy.sorted_ascending
  · intro kind
    refine ⟨List.filter_sublist, fun p => ?_⟩
    unfold ofKind
    rw [List.mem_filter, decide_eq_true_eq]
  · exact tidy.sorted_eq_append
  · have length := congrArg List.length tidy.sorted_eq_append
    rw [List.length_append] at length
    rw [← length]
    exact (List.length_map _).symm
  · exact tidy.get?_iff_mem_sorted

/-- The numbers of devices are compared as numbers and not as texts. -/
example :
    let snapshot (kind : DeviceKind) (samples : SampleMap) (ascending : Dict.Ascending samples)
        (empty : forall entry, entry ∈ samples -> entry.2 = []) : Snapshot :=
      ⟨kind, 1, samples, false, ascending, fun entry mem => empty entry mem ▸ Dict.ascending_nil⟩
    let smart := snapshot .smartDevice [({ number := 7 }, []), ({ number := 100 }, [])]
      (by unfold Dict.Ascending; decide) (by decide)
    let pads := snapshot .gamepad [({ number := 500 }, [])] (List.pairwise_singleton _ _) (by decide)
    (ofSnapshots [smart, pads]).sorted.map (fun p => p.id.device.number) = [500, 7, 100] := by
  decide

end Peripherals
end RobotConsole
