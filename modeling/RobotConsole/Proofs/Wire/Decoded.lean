import RobotConsole.Proofs.Device.Order
import RobotConsole.Proofs.Json.Room
import RobotConsole.Proofs.Wire.Sound

/-!
# What can be decoded

However an event was written, what is decoded can be held, has no context key by the name of a
field, and has a JSON value that is nested no deeper than what was read.
-/

namespace RobotConsole

/-- The reading can be held, and is nested no deeper than that. -/
structure Reading.SoundWithin (n : Nat) (r : Reading) : Prop where
  sound : r.Sound
  shallow : r.toJson.depth ≤ n

structure ParameterReadings.SoundWithin (n : Nat) (readings : ParameterReadings) : Prop where
  ascending : Dict.Ascending readings
  each : forall name r, (name, r) ∈ readings -> Reading.SoundWithin n r

structure SampleMap.SoundWithin (n : Nat) (samples : SampleMap) : Prop where
  ascending : Dict.Ascending samples
  each : forall id readings, (id, readings) ∈ samples -> ParameterReadings.SoundWithin n readings

structure TelemetryBatch.SoundWithin (n : Nat) (batch : TelemetryBatch) : Prop where
  timestamp : forall t, batch.timestamp? = some t -> Numeric.fitsInt64 t
  samples : SampleMap.SoundWithin n batch.samples

structure LogEvent.SoundWithin (n : Nat) (event : LogEvent) : Prop where
  timestamp : Numeric.fitsInt64 event.timestamp
  context : ParameterReadings.SoundWithin n event.context
  separate : (TransportEvent.log event).Separate

section

variable {n : Nat}

theorem ParameterReadings.SoundWithin.sound {readings : ParameterReadings}
    (h : readings.SoundWithin n) : readings.Sound :=
  ⟨h.ascending, fun name r mem => (h.each name r mem).sound⟩

theorem ParameterReadings.SoundWithin.shallow {readings : ParameterReadings}
    (h : readings.SoundWithin n) : Json.depth (.object (Reading.entriesToJson readings)) ≤ n + 1 := by
  apply Json.depth_object_le_iff.2
  intro name value mem
  obtain ⟨r, given, rfl⟩ := Reading.mem_entriesToJson mem
  exact (h.each name r given).shallow

theorem SampleMap.SoundWithin.shallow {samples : SampleMap} (h : SampleMap.SoundWithin n samples) :
    (TelemetryBatch.samplesToJson samples).depth ≤ n + 2 := by
  obtain ⟨members, json, inside⟩ := TelemetryBatch.mem_samplesToJson samples
  rw [json]
  apply Json.depth_object_le_iff.2
  intro name value mem
  obtain ⟨id, readings, given, rfl⟩ := inside name value mem
  exact (h.each id readings given).shallow

theorem TelemetryBatch.SoundWithin.sound {batch : TelemetryBatch} (h : batch.SoundWithin n) :
    batch.Sound :=
  ⟨h.timestamp, h.samples.ascending, fun id readings mem => (h.samples.each id readings mem).sound⟩

theorem TelemetryBatch.SoundWithin.shallow {batch : TelemetryBatch} (h : batch.SoundWithin n) :
    batch.toJson.depth ≤ n + 3 := by
  obtain ⟨members, json, inside⟩ := batch.mem_toJson
  rw [json]
  apply Json.depth_object_le_iff.2
  intro name value mem
  rcases inside name value mem with ⟨s, rfl⟩ | ⟨b, rfl⟩ | ⟨t, _, rfl⟩ | rfl
  · exact Nat.zero_le _
  · exact Nat.zero_le _
  · exact Nat.zero_le _
  · exact h.samples.shallow

theorem LogEvent.SoundWithin.shallow {event : LogEvent} (h : event.SoundWithin n) :
    event.toJson.depth ≤ n + 1 := by
  obtain ⟨members, json, inside⟩ := event.mem_toJson
  rw [json]
  apply Json.depth_object_le_iff.2
  intro name value mem
  rcases inside name value mem with ⟨s, rfl⟩ | rfl | ⟨r, given, rfl⟩
  · exact Nat.zero_le _
  · exact Nat.zero_le _
  · exact (h.context.each name r given).shallow

end

namespace Wire

open Json (Draft Ending)

/-! ## Steps that succeed -/

section

variable {α : Type} {β : Type}

theorem exists_of_bind {x : Decoded α} {f : α -> Decoded β} {b : β} (done : x.bind f = .ok b) :
    exists a, x = .ok a ∧ f a = .ok b := by
  cases x with
  | error e => cases done
  | ok a => exact ⟨a, rfl, done⟩

theorem exists_of_map {x : Decoded α} {f : α -> β} {b : β} (done : x.map f = .ok b) :
    exists a, x = .ok a ∧ f a = b := by
  cases x with
  | error e => cases done
  | ok a =>
      cases done
      exact ⟨a, rfl, rfl⟩

theorem exists_of_setOnce {name : String} {old new : Option α} {decode : Draft -> Decoded α}
    {value : Draft} (done : setOnce name old decode value = .ok new) :
    exists a, decode value = .ok a ∧ new = some a := by
  cases old with
  | some a => cases done
  | none =>
      obtain ⟨a, read, rfl⟩ := exists_of_map done
      exact ⟨a, read, rfl⟩

theorem decodeChars_eq_ok_iff {decode : Draft -> Decoded α} {cs : List Char} {a : α} :
    decodeChars decode cs = .ok a ↔
      decode (Draft.read cs).1 = .ok a ∧ Draft.skipSpace (Draft.read cs).2 = [] := by
  unfold decodeChars
  generalize Draft.read cs = read
  constructor
  · intro done
    obtain ⟨_, decoded, rest⟩ := exists_of_bind done
    split at rest
    · cases rest
      exact ⟨decoded, ‹_›⟩
    · cases rest
  · rintro ⟨decoded, blank⟩
    show (decode read.1).bind _ = _
    rw [decoded]
    exact if_pos blank

end

theorem foldMembers_induction {σ : Type} {P : σ -> Prop} {step : σ -> String -> Draft -> Decoded σ}
    {members : List (String × Draft)} {ending : Ending} {state result : σ}
    (done : foldMembers step state members ending = .ok result) (start : P state)
    (kept : forall state name value next, (name, value) ∈ members -> P state ->
      step state name value = .ok next -> P next) : P result := by
  induction members generalizing state with
  | nil =>
      obtain ⟨_, _, same⟩ := exists_of_bind done
      cases same
      exact start
  | cons member rest ih =>
      obtain ⟨name, value⟩ := member
      obtain ⟨next, first, done⟩ := exists_of_bind done
      refine ih done (kept state name value next List.mem_cons_self start first) ?_
      intro state name value next mem
      exact kept state name value next (List.mem_cons_of_mem _ mem)

theorem within_recordMembers {n required : Nat} {fields : List String} {d : Draft}
    {members : List (String × Draft)} {ending : Ending} (within : d.Within (n + 1))
    (read : recordMembers fields required d = .ok (members, ending)) {name : String}
    {value : Draft} (mem : (name, value) ∈ members) : value.Within n := by
  cases within with
  | object ending all =>
      cases read
      exact all name value mem
  | array ending all =>
      cases read
      exact all value (List.of_mem_zip mem).2
  | _ => cases read

/-! ## Readings -/

section

variable {n : Nat} {d : Draft}

theorem decodeValue_within (within : d.Within n) {j : Json} (read : decodeValue d = .ok j) :
    j.depth ≤ n := by
  unfold decodeValue at read
  split at read
  case h_1 held =>
    cases read
    exact within.depth_le held
  case h_2 => cases read

theorem decodeReading_within (within : d.Within n) {r : Reading} (read : decodeReading d = .ok r) :
    r.SoundWithin n := by
  obtain ⟨j, value, rfl⟩ := exists_of_map read
  exact ⟨Reading.sound_ofJson j, Reading.depth_toJson_ofJson (decodeValue_within within value)⟩

theorem decodeReadings_within (within : d.Within (n + 1)) {readings : ParameterReadings}
    (read : decodeReadings d = .ok readings) : readings.SoundWithin n := by
  cases within with
  | object ending all =>
      apply foldMembers_induction read ⟨Dict.ascending_nil, nofun⟩
      intro readings name value next mem sound step
      obtain ⟨r, value', same⟩ := exists_of_bind step
      cases same
      refine ⟨sound.ascending.alter name _, ?_⟩
      intro other r' given
      rcases Dict.mem_insert given with same | old
      · cases same
        exact decodeReading_within (all name value mem) value'
      · exact sound.each other r' old
  | _ => cases read

theorem soundWithin_nil (n : Nat) : SampleMap.SoundWithin n [] := by
  refine ⟨Dict.ascending_nil, ?_⟩
  intro id readings mem
  exact absurd mem List.not_mem_nil

theorem decodeSamples_within (within : d.Within (n + 1 + 1)) {samples : SampleMap}
    (read : decodeSamples d = .ok samples) : SampleMap.SoundWithin n samples := by
  cases within with
  | object ending all =>
      apply foldMembers_induction read (soundWithin_nil n)
      intro samples name value next mem sound step
      obtain ⟨id, _, step⟩ := exists_of_bind step
      obtain ⟨readings, value', same⟩ := exists_of_bind step
      cases same
      refine ⟨sound.ascending.alter id _, ?_⟩
      intro other readings' given
      rcases Dict.mem_insert given with same | old
      · cases same
        exact decodeReadings_within (all name value mem) value'
      · exact sound.each other readings' old
  | _ => cases read

/-! ## Batches -/

theorem fits_of_decodeInt64 {t : Int} (read : decodeInt64 d = .ok t) : Numeric.fitsInt64 t := by
  cases d with
  | integer k =>
      unfold decodeInt64 decodeInt at read
      dsimp only at read
      split at read
      · cases read
        unfold Numeric.fitsInt64
        simp only [Bool.and_eq_true, decide_eq_true_eq]
        assumption
      · cases read
  | _ => cases read

theorem fits_of_decodeOption {t : Int} (read : decodeOption decodeInt64 d = .ok (some t)) :
    Numeric.fitsInt64 t := by
  unfold decodeOption at read
  split at read
  · cases read
  · obtain ⟨a, read, same⟩ := exists_of_map read
    cases same
    exact fits_of_decodeInt64 read

structure BatchFields.SoundWithin (n : Nat) (fields : BatchFields) : Prop where
  timestamp : forall t, fields.timestamp? = some (some t) -> Numeric.fitsInt64 t
  samples : forall samples, fields.samples? = some samples -> SampleMap.SoundWithin n samples

theorem BatchFields.SoundWithin.step {setAside : Bool} {fields next : BatchFields} {name : String}
    (sound : fields.SoundWithin n) (within : d.Within (n + 2))
    (done : BatchFields.step setAside fields name d = .ok next) : next.SoundWithin n := by
  unfold BatchFields.step at done
  split at done
  · obtain ⟨_, _, same⟩ := exists_of_bind done
    cases same
    exact ⟨sound.timestamp, sound.samples⟩
  split at done
  · obtain ⟨_, once, same⟩ := exists_of_bind done
    cases same
    obtain ⟨stamp, read, rfl⟩ := exists_of_setOnce once
    refine ⟨?_, sound.samples⟩
    rintro t ⟨⟩
    exact fits_of_decodeOption read
  split at done
  · obtain ⟨_, once, same⟩ := exists_of_bind done
    cases same
    obtain ⟨samples, read, rfl⟩ := exists_of_setOnce once
    refine ⟨sound.timestamp, ?_⟩
    rintro _ ⟨⟩
    exact decodeSamples_within within read
  split at done
  · obtain ⟨_, _, same⟩ := exists_of_bind done
    cases same
    exact ⟨sound.timestamp, sound.samples⟩
  · obtain ⟨_, _, same⟩ := exists_of_bind done
    cases same
    exact sound

theorem BatchFields.SoundWithin.finish {fields : BatchFields} (sound : fields.SoundWithin n)
    {batch : TelemetryBatch} (done : fields.finish = .ok batch) : batch.SoundWithin n := by
  unfold BatchFields.finish at done
  split at done
  · cases done
  cases done
  constructor
  · intro t stamp
    cases held : fields.timestamp? with
    | none =>
        rw [held] at stamp
        cases stamp
    | some given =>
        rw [held] at stamp
        cases stamp
        exact sound.timestamp t held
  · cases held : fields.samples? with
    | none => exact soundWithin_nil n
    | some samples => exact sound.samples samples held

theorem decodeBatch_within {setAside : Bool} (within : d.Within (n + 3)) {batch : TelemetryBatch}
    (read : decodeBatch setAside d = .ok batch) : batch.SoundWithin n := by
  obtain ⟨⟨members, ending⟩, given, read⟩ := exists_of_bind read
  obtain ⟨fields, done, read⟩ := exists_of_bind read
  have sound : fields.SoundWithin n := by
    apply foldMembers_induction done ⟨nofun, nofun⟩
    intro fields name value next mem sound step
    exact sound.step (within_recordMembers within given mem) step
  exact sound.finish read

/-! ## Log events -/

structure LogFields.SoundWithin (n : Nat) (fields : LogFields) : Prop where
  timestamp : forall t, fields.timestamp? = some t -> Numeric.fitsInt64 t
  context : forall name r, (name, r) ∈ fields.context -> Reading.SoundWithin n r
  separate : forall name r, (name, r) ∈ fields.context -> name ∉ LogEvent.fieldNames

theorem LogFields.SoundWithin.step {setAside : Bool} {fields next : LogFields} {name : String}
    (sound : fields.SoundWithin n) (within : d.Within n)
    (done : LogFields.step setAside fields name d = .ok next) : next.SoundWithin n := by
  unfold LogFields.step at done
  split at done
  · obtain ⟨_, once, same⟩ := exists_of_bind done
    cases same
    obtain ⟨stamp, read, rfl⟩ := exists_of_setOnce once
    refine ⟨?_, sound.context, sound.separate⟩
    rintro t ⟨⟩
    exact fits_of_decodeInt64 read
  split at done
  · obtain ⟨_, _, same⟩ := exists_of_bind done
    cases same
    exact ⟨sound.timestamp, sound.context, sound.separate⟩
  split at done
  · obtain ⟨_, _, same⟩ := exists_of_bind done
    cases same
    exact ⟨sound.timestamp, sound.context, sound.separate⟩
  · rename_i timestamp level message
    obtain ⟨r, read, same⟩ := exists_of_bind done
    cases same
    have added (other : String) (r' : Reading) (mem : (other, r') ∈ fields.context ++ [(name, r)]) :
        (other, r') ∈ fields.context ∨ other = name ∧ r' = r := by
      rcases List.mem_append.1 mem with old | new
      · exact .inl old
      · cases List.mem_singleton.1 new
        exact .inr ⟨rfl, rfl⟩
    refine ⟨sound.timestamp, ?_, ?_⟩
    · intro other r' mem
      rcases added other r' mem with old | ⟨rfl, rfl⟩
      · exact sound.context other r' old
      · exact decodeReading_within within read
    · intro other r' mem
      rcases added other r' mem with old | ⟨rfl, rfl⟩
      · exact sound.separate other r' old
      · rw [not_or] at message
        simp [LogEvent.fieldNames, timestamp, level, message]

theorem LogFields.SoundWithin.finish {fields : LogFields} (sound : fields.SoundWithin n)
    {event : LogEvent} (done : fields.finish = .ok event) : event.SoundWithin n := by
  unfold LogFields.finish at done
  split at done
  · cases done
  cases done
  refine ⟨?_, ⟨Dict.ascending_ofList _, ?_⟩, ?_⟩
  · cases held : fields.timestamp? with
    | none => rfl
    | some t => exact sound.timestamp t held
  · intro name r mem
    exact sound.context name r (Dict.mem_of_mem_ofList mem)
  · intro name r mem
    exact sound.separate name r (Dict.mem_of_mem_ofList mem)

theorem decodeLog_within {setAside : Bool} (within : d.Within (n + 1)) {event : LogEvent}
    (read : decodeLog setAside d = .ok event) : event.SoundWithin n := by
  cases within with
  | object ending all =>
      obtain ⟨fields, done, read⟩ := exists_of_bind read
      have sound : fields.SoundWithin n := by
        apply foldMembers_induction done ⟨nofun, nofun, nofun⟩
        intro fields name value next mem sound step
        exact sound.step (all name value mem) step
      exact sound.finish read
  | _ => cases read

/-! ## Events -/

structure EventWithin (n : Nat) (event : TransportEvent) : Prop where
  sound : event.Sound
  separate : event.Separate
  shallow : event.toJson.depth ≤ n

theorem depth_tagged {type : String} {data : Json} (shallow : data.depth ≤ n) :
    Json.depth (.object [("type", .string type), ("data", data)]) ≤ n + 1 := by
  apply Json.depth_object_le_iff.2
  intro name value mem
  simp only [List.mem_cons, List.not_mem_nil, or_false] at mem
  rcases mem with same | same <;> cases same
  · exact Nat.zero_le _
  · exact shallow

theorem decodeData_within {setAside : Bool} {type : EventType} (within : d.Within (n + 3))
    {event : TransportEvent} (read : decodeData setAside type d = .ok event) :
    EventWithin (n + 4) event := by
  cases type with
  | telemetry =>
      obtain ⟨batch, decoded, rfl⟩ := exists_of_map read
      have held := decodeBatch_within within decoded
      exact ⟨held.sound, trivial, depth_tagged held.shallow⟩
  | log =>
      obtain ⟨event, decoded, rfl⟩ := exists_of_map read
      have held := decodeLog_within within decoded
      exact ⟨⟨held.timestamp, held.context.sound⟩, held.separate, depth_tagged held.shallow⟩

def EventFields.SoundWithin (n : Nat) : EventFields -> Prop
  | nothing => True
  | typeKnown _ => True
  | dataSetAside data => data.depth ≤ n + 3
  | whole event => EventWithin (n + 4) event

theorem EventFields.SoundWithin.step {fields next : EventFields} {name : String}
    (sound : fields.SoundWithin n) (within : d.Within (n + 3))
    (done : EventFields.step fields name d = .ok next) : next.SoundWithin n := by
  unfold EventFields.step at done
  split at done
  · split at done
    · obtain ⟨type, _, same⟩ := exists_of_bind done
      cases same
      trivial
    · obtain ⟨type, _, done⟩ := exists_of_bind done
      obtain ⟨event, read, same⟩ := exists_of_bind done
      cases same
      exact decodeData_within (.of_depth sound) read
    · cases done
  split at done
  · split at done
    · obtain ⟨j, read, same⟩ := exists_of_bind done
      cases same
      exact decodeValue_within within read
    · obtain ⟨event, read, same⟩ := exists_of_bind done
      cases same
      exact decodeData_within within read
    · cases done
  · obtain ⟨_, _, same⟩ := exists_of_bind done
    cases same
    exact sound

theorem decodeEvent_within (within : d.Within (n + 4)) {event : TransportEvent}
    (read : decodeEvent d = .ok event) : EventWithin (n + 4) event := by
  obtain ⟨⟨members, ending⟩, given, read⟩ := exists_of_bind read
  obtain ⟨fields, done, read⟩ := exists_of_bind read
  have sound : fields.SoundWithin n := by
    apply foldMembers_induction done trivial
    intro fields name value next mem sound step
    exact sound.step (within_recordMembers within given mem) step
  cases fields with
  | whole event =>
      cases read
      exact sound
  | _ => cases read

end

end Wire
end RobotConsole
