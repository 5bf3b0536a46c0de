import RobotConsole.Proofs.Console.Run
import RobotConsole.Proofs.Peripherals.Run
import RobotConsole.Proofs.Wire.Decoded

/-!
# The snapshots of a run

The peripherals that a console knows are a function of the batches of its run, whatever else
happens to it.
-/

namespace RobotConsole

instance {κ α : Type} [Ord κ] (d : Dict κ α) : Decidable (Dict.Ascending d) :=
  inferInstanceAs (Decidable (d.Pairwise fun a b => compare a.1 b.1 = .lt))

/-- The snapshot that a batch is, unless a device or a name is in it twice. -/
def TelemetryBatch.snapshot? (batch : TelemetryBatch) (now : Int) : Option Snapshot :=
  if h : Dict.Ascending batch.samples ∧
      forall entry, entry ∈ batch.samples -> Dict.Ascending entry.2 then
    some ⟨batch.kind, batch.timestampOr now, batch.samples, batch.disconnect, h.1, h.2⟩
  else none

def Move.snapshot? : Move -> Option Snapshot
  | .apply now (.telemetry batch) => batch.snapshot? now
  | _ => none

/-- The batches of a run can be held, with readings that are nested no deeper than that. -/
def SoundBatches (n : Nat) (moves : List Move) : Prop :=
  forall now batch, Move.apply now (.telemetry batch) ∈ moves -> batch.SoundWithin n

namespace Console

def snapshots (moves : List Move) : List Snapshot :=
  moves.filterMap Move.snapshot?

section

variable {batch : TelemetryBatch}

theorem snapshot?_of_sound {n : Nat} (sound : batch.SoundWithin n) (now : Int) :
    exists h h', batch.snapshot? now =
      some ⟨batch.kind, batch.timestampOr now, batch.samples, batch.disconnect, h, h'⟩ := by
  have names : forall entry, entry ∈ batch.samples -> Dict.Ascending entry.2 :=
    fun entry mem => (sound.samples.each entry.1 entry.2 mem).ascending
  exact ⟨sound.samples.ascending, names, dif_pos ⟨sound.samples.ascending, names⟩⟩

theorem samples_of_snapshot? {now : Int} {s : Snapshot} (found : batch.snapshot? now = some s) :
    s.samples = batch.samples := by
  unfold TelemetryBatch.snapshot? at found
  split at found
  · cases found
    rfl
  · cases found

end

variable {n : Nat}

theorem step_peripherals (c : Console) {m : Move} (sound : SoundBatches n [m]) :
    (c.step m).state.peripherals =
      m.snapshot?.elim c.state.peripherals fun s => (c.state.peripherals.receive s).1 := by
  refine (congrArg SessionState.peripherals (step_session c m)).trans ?_
  cases m with
  | apply now event => cases event with
    | telemetry batch =>
        obtain ⟨_, _, found⟩ := snapshot?_of_sound (sound now batch List.mem_cons_self) now
        show _ = (batch.snapshot? now).elim _ _
        rw [found]
        rfl
    | log event => rfl
  | _ => rfl

theorem peripherals_play (settings : Settings) (hasLogDisplay : Bool) {moves : List Move}
    (sound : SoundBatches n moves) :
    ((fresh settings hasLogDisplay).play moves).state.peripherals =
      .ofSnapshots (snapshots moves) := by
  induction moves using List.reverseRecOn with
  | nil => rfl
  | append_singleton moves m ih =>
      have earlier := ih fun now batch mem => sound now batch (List.mem_append_left _ mem)
      have last : SoundBatches n [m] :=
        fun now batch mem => sound now batch (List.mem_append_right _ mem)
      rw [play_snoc, step_peripherals _ last, earlier]
      unfold snapshots
      rw [List.filterMap_append]
      cases found : m.snapshot? with
      | none =>
          rw [List.filterMap_cons_none found]
          exact congrArg Peripherals.ofSnapshots (List.append_nil _).symm
      | some s =>
          rw [List.filterMap_cons_some found]
          exact (Peripherals.ofSnapshots_append_singleton _ s).symm

theorem sound_of_reported {moves : List Move} (sound : SoundBatches n moves) {id : PeripheralId}
    {name : String} {sample : Sample} (mem : sample ∈ Snapshot.reported id name (snapshots moves)) :
    sample.value.SoundWithin n := by
  obtain ⟨s, since, found⟩ := List.mem_filterMap.1 mem
  have inside : s ∈ snapshots moves :=
    List.mem_of_mem_filter ((List.rtakeWhile_suffix _ _).subset since)
  obtain ⟨m, given, same⟩ := List.mem_filterMap.1 inside
  obtain ⟨value, reading, rfl⟩ := Option.map_eq_some_iff.1 found
  obtain ⟨readings, device, named⟩ := Option.bind_eq_some_iff.1 reading
  cases m with
  | apply now event => cases event with
    | telemetry batch =>
        rw [samples_of_snapshot? same] at device
        exact ((sound now batch given).samples.each _ _ (Dict.mem_of_find? device)).each name value
          (Dict.mem_of_find? named)
    | log event => cases same
  | _ => cases same

end Console
end RobotConsole
