import RobotConsole.Proofs.Device.Order
import RobotConsole.Proofs.Device.Text
import RobotConsole.Proofs.Wire.Sound

/-!
# Decoding what was encoded

The JSON of an event that can be held is decoded as that event. Only a log event that has a
context key by the name of one of its own fields is not: its JSON has that name twice, which is
refused.
-/

namespace RobotConsole
namespace Wire

open Json (Draft Ending)

/-! ## Dictionaries -/

section

variable {κ : Type} {α : Type} [Ord κ] [Std.OrientedOrd κ]

theorem foldMembers_insert {step : Dict κ α -> String -> Draft -> Decoded (Dict κ α)}
    {encode : κ × α -> String × Draft} {entries : Dict κ α} (ascending : Dict.Ascending entries)
    (steps : forall entry, entry ∈ entries -> forall d,
      step d (encode entry).1 (encode entry).2 = .ok (Dict.insert entry.1 entry.2 d)) :
    foldMembers step [] (entries.map encode) .closed = .ok entries := by
  suffices forall d : Dict κ α, Dict.Ascending (d ++ entries) ->
      foldMembers step d (entries.map encode) .closed = .ok (d ++ entries) from
    this [] ascending
  clear ascending
  induction entries with
  | nil =>
      intro d _
      rw [List.append_nil]
      rfl
  | cons first rest ih =>
      intro d h
      have split : d ++ first :: rest = (d ++ [first]) ++ rest := by simp
      rw [split] at h ⊢
      show (step d (encode first).1 (encode first).2).bind _ = _
      rw [steps first List.mem_cons_self,
        Dict.insert_of_ascending_concat (List.pairwise_append.1 h).1]
      exact ih (fun entry mem => steps entry (List.mem_cons_of_mem _ mem)) _ h

end

theorem ofMembers_entriesToJson (entries : List (String × Reading)) :
    Draft.ofMembers (Reading.entriesToJson entries) =
      entries.map fun (name, r) => (name, .ofJson r.toJson) := by
  rw [Draft.ofMembers_eq, Reading.entriesToJson_eq, List.map_map]
  rfl

theorem decodeReadings_toJson {readings : ParameterReadings} (sound : readings.Sound) :
    decodeReadings (.ofJson (.object (Reading.entriesToJson readings))) = .ok readings := by
  show foldMembers _ [] (Draft.ofMembers (Reading.entriesToJson readings)) .closed = _
  rw [ofMembers_entriesToJson]
  apply foldMembers_insert sound.1
  rintro ⟨name, r⟩ mem d
  show ((decodeReading (.ofJson r.toJson)).bind fun r => .ok (Dict.insert name r d)) = _
  rw [decodeReading_toJson (sound.2 name r mem)]
  rfl

theorem decodeSamples_toJson {samples : SampleMap} (ascending : Dict.Ascending samples)
    (sound : forall id readings, (id, readings) ∈ samples -> ParameterReadings.Sound readings) :
    decodeSamples (.ofJson (TelemetryBatch.samplesToJson samples)) = .ok samples := by
  show foldMembers _ [] (Draft.ofMembers (samples.map fun entry =>
    (entry.1.text, Json.object (Reading.entriesToJson entry.2)))) .closed = _
  rw [Draft.ofMembers_eq, List.map_map]
  apply foldMembers_insert ascending
  rintro ⟨id, readings⟩ mem d
  show ((deviceOfText id.text).bind fun id =>
    (decodeReadings (.ofJson (.object (Reading.entriesToJson readings)))).bind fun readings =>
      .ok (Dict.insert id readings d)) = _
  have device : deviceOfText id.text = .ok id := by
    unfold deviceOfText
    rw [DeviceId.parse_text]
  rw [device, decodeReadings_toJson (sound id readings mem)]
  rfl

theorem foldMembers_cons {σ : Type} {step : σ -> String -> Draft -> Decoded σ} {state next : σ}
    {name : String} {value : Draft} (first : step state name value = .ok next)
    (rest : List (String × Draft)) (ending : Ending) :
    foldMembers step state ((name, value) :: rest) ending = foldMembers step next rest ending := by
  show (step state name value).bind _ = _
  rw [first]
  rfl

/-! ## Batches -/

theorem decodeInt64_of_fits {n : Int} (fits : Numeric.fitsInt64 n) :
    decodeInt64 (.integer n) = .ok n := by
  unfold Numeric.fitsInt64 at fits
  simp only [Bool.and_eq_true, decide_eq_true_eq] at fits
  exact if_pos fits

theorem setOnce_none {α : Type} {decode : Draft -> Decoded α} {value : Draft} {a : α}
    {old : Option α} (new : old = none) (read : decode value = .ok a) (name : String) :
    setOnce name old decode value = .ok (some a) := by
  rw [new]
  show (decode value).map some = _
  rw [read]
  rfl

section

variable {fields : BatchFields}

theorem BatchFields.step_kind (new : fields.kind? = none) (kind : DeviceKind) :
    BatchFields.step false fields "kind" (.ofJson kind.toJson) =
      .ok { fields with kind? := some kind } := by
  have read : decodeKind false (.ofJson kind.toJson) = .ok kind := by
    cases kind <;> rfl
  show (setOnce "kind" _ _ _).bind _ = _
  rw [setOnce_none new read]
  rfl

theorem BatchFields.step_timestamp (new : fields.timestamp? = none) {t : Int}
    (fits : Numeric.fitsInt64 t) :
    BatchFields.step false fields "timestamp_ms" (.integer t) =
      .ok { fields with timestamp? := some (some t) } := by
  have read : decodeOption decodeInt64 (.integer t) = .ok (some t) := by
    show (decodeInt64 (.integer t)).map some = _
    rw [decodeInt64_of_fits fits]
    rfl
  show (setOnce "timestamp_ms" _ _ _).bind _ = _
  rw [setOnce_none new read]
  rfl

theorem BatchFields.step_samples (new : fields.samples? = none) {samples : SampleMap}
    {value : Draft} (read : decodeSamples value = .ok samples) :
    BatchFields.step false fields "samples" value =
      .ok { fields with samples? := some samples } := by
  show (setOnce "samples" _ _ _).bind _ = _
  rw [setOnce_none new read]
  rfl

theorem BatchFields.step_disconnect (new : fields.disconnect? = none) (disconnect : Bool) :
    BatchFields.step false fields "disconnect" (.bool disconnect) =
      .ok { fields with disconnect? := some disconnect } := by
  show (setOnce "disconnect" _ _ _).bind _ = _
  rw [setOnce_none new rfl]
  rfl

end

theorem decodeBatch_toJson {batch : TelemetryBatch} (sound : batch.Sound) :
    decodeBatch false (.ofJson batch.toJson) = .ok batch := by
  obtain ⟨kind, timestamp?, samples, disconnect⟩ := batch
  have read := decodeSamples_toJson sound.samples sound.readings
  cases timestamp? with
  | none =>
      show (foldMembers (BatchFields.step false) {} [("kind", .ofJson kind.toJson),
        ("samples", .ofJson (TelemetryBatch.samplesToJson samples)),
        ("disconnect", .bool disconnect)] .closed).bind BatchFields.finish = _
      rw [foldMembers_cons (BatchFields.step_kind rfl kind),
        foldMembers_cons (BatchFields.step_samples rfl read),
        foldMembers_cons (BatchFields.step_disconnect rfl disconnect)]
      rfl
  | some t =>
      show (foldMembers (BatchFields.step false) {} [("kind", .ofJson kind.toJson),
        ("timestamp_ms", .integer t), ("samples", .ofJson (TelemetryBatch.samplesToJson samples)),
        ("disconnect", .bool disconnect)] .closed).bind BatchFields.finish = _
      rw [foldMembers_cons (BatchFields.step_kind rfl kind),
        foldMembers_cons (BatchFields.step_timestamp rfl (sound.timestamp t rfl)),
        foldMembers_cons (BatchFields.step_samples rfl read),
        foldMembers_cons (BatchFields.step_disconnect rfl disconnect)]
      rfl

/-! ## Log events -/

section

variable (fields : LogFields) {name : String}

theorem LogFields.step_context (other : name ∉ LogEvent.fieldNames) {r : Reading}
    (sound : r.Sound) :
    LogFields.step false fields name (.ofJson r.toJson) =
      .ok { fields with context := fields.context ++ [(name, r)] } := by
  simp only [LogEvent.fieldNames, List.mem_cons, List.not_mem_nil, or_false, not_or] at other
  obtain ⟨timestamp, level, message, event⟩ := other
  unfold LogFields.step
  rw [if_neg timestamp, if_neg level, if_neg (not_or.2 ⟨message, event⟩),
    decodeReading_toJson sound]
  rfl

theorem setOnce_some {α : Type} {old : Option α} (given : old.isSome) (name : String)
    (decode : Draft -> Decoded α) (value : Draft) :
    setOnce name old decode value = .error (.duplicateField name) := by
  cases old with
  | none => cases given
  | some a => rfl

structure LogFields.Complete (fields : LogFields) : Prop where
  timestamp : fields.timestamp?.isSome
  level : fields.level?.isSome
  message : fields.message?.isSome

variable {fields} in
theorem LogFields.step_field (field : name ∈ LogEvent.fieldNames) (complete : fields.Complete)
    (value : Draft) : exists e, LogFields.step false fields name value = .error e := by
  simp only [LogEvent.fieldNames, List.mem_cons, List.not_mem_nil, or_false] at field
  rcases field with rfl | rfl | rfl | rfl
  · refine ⟨.duplicateField "timestamp_ms", ?_⟩
    show (setOnce _ _ _ _).bind _ = _
    rw [setOnce_some complete.timestamp]
    rfl
  · refine ⟨.duplicateField "level", ?_⟩
    show (setOnce _ _ _ _).bind _ = _
    rw [setOnce_some complete.level]
    rfl
  · refine ⟨.duplicateField "message", ?_⟩
    show (setOnce _ _ _ _).bind _ = _
    rw [setOnce_some complete.message]
    rfl
  · refine ⟨.duplicateField "message", ?_⟩
    show (setOnce _ _ _ _).bind _ = _
    rw [setOnce_some complete.message]
    rfl

end

section

variable {entries : List (String × Reading)}
  (sound : forall name r, (name, r) ∈ entries -> r.Sound)

include sound

theorem foldMembers_context
    (others : forall name r, (name, r) ∈ entries -> name ∉ LogEvent.fieldNames)
    (fields : LogFields) :
    foldMembers (LogFields.step false) fields (Draft.ofMembers (Reading.entriesToJson entries))
      .closed = .ok { fields with context := fields.context ++ entries } := by
  induction entries generalizing fields with
  | nil =>
      rw [List.append_nil]
      rfl
  | cons entry rest ih =>
      obtain ⟨name, r⟩ := entry
      have first := LogFields.step_context fields (others name r List.mem_cons_self)
        (sound name r List.mem_cons_self)
      show foldMembers _ _ ((name, .ofJson r.toJson) ::
        Draft.ofMembers (Reading.entriesToJson rest)) _ = _
      rw [foldMembers_cons first, ih (fun name r mem => sound name r (List.mem_cons_of_mem _ mem))
        fun name r mem => others name r (List.mem_cons_of_mem _ mem)]
      simp

theorem foldMembers_context_error {fields : LogFields} (complete : fields.Complete)
    {name : String} {r : Reading} (mem : (name, r) ∈ entries)
    (field : name ∈ LogEvent.fieldNames) :
    exists e, foldMembers (LogFields.step false) fields
      (Draft.ofMembers (Reading.entriesToJson entries)) .closed = .error e := by
  induction entries generalizing fields with
  | nil => cases mem
  | cons entry rest ih =>
      obtain ⟨name', r'⟩ := entry
      show exists e, foldMembers _ _ ((name', .ofJson r'.toJson) ::
        Draft.ofMembers (Reading.entriesToJson rest)) _ = .error e
      by_cases own : name' ∈ LogEvent.fieldNames
      · obtain ⟨e, refused⟩ := LogFields.step_field own complete (.ofJson r'.toJson)
        refine ⟨e, ?_⟩
        show (LogFields.step false fields name' (.ofJson r'.toJson)).bind _ = _
        rw [refused]
        rfl
      · have first := LogFields.step_context fields own
          (sound name' r' List.mem_cons_self)
        have later : (name, r) ∈ rest := by
          rcases List.mem_cons.1 mem with same | later
          · cases same
            exact absurd field own
          · exact later
        rw [foldMembers_cons first]
        exact ih (fun name r mem => sound name r (List.mem_cons_of_mem _ mem))
          ⟨complete.timestamp, complete.level, complete.message⟩ later

end

theorem decodeLog_toJson_eq {event : LogEvent} (sound : event.Sound) :
    decodeLog false (.ofJson event.toJson) =
      (foldMembers (LogFields.step false)
        { timestamp? := some event.timestamp, level? := some event.level
          message? := some event.message }
        (Draft.ofMembers (Reading.entriesToJson event.context)) .closed).bind LogFields.finish := by
  have first : LogFields.step false {} "timestamp_ms" (.integer event.timestamp) =
      .ok { timestamp? := some event.timestamp } := by
    show (setOnce "timestamp_ms" _ _ _).bind _ = _
    rw [setOnce_none rfl (decodeInt64_of_fits sound.timestamp)]
    rfl
  have second : LogFields.step false { timestamp? := some event.timestamp } "level"
      (.string event.level.name) =
        .ok { timestamp? := some event.timestamp, level? := some event.level } := by
    cases event.level <;> rfl
  have third : LogFields.step false
      { timestamp? := some event.timestamp, level? := some event.level } "message"
      (.string event.message) =
        .ok { timestamp? := some event.timestamp, level? := some event.level
              message? := some event.message } :=
    rfl
  show (foldMembers (LogFields.step false) {} (("timestamp_ms", .integer event.timestamp) ::
    ("level", .string event.level.name) :: ("message", .string event.message) ::
      Draft.ofMembers (Reading.entriesToJson event.context)) .closed).bind LogFields.finish = _
  rw [foldMembers_cons first, foldMembers_cons second, foldMembers_cons third]

theorem decodeLog_toJson {event : LogEvent} (sound : event.Sound)
    (separate : (TransportEvent.log event).Separate) :
    decodeLog false (.ofJson event.toJson) = .ok event := by
  rw [decodeLog_toJson_eq sound, foldMembers_context sound.context.2 separate]
  show Except.ok { event with context := Dict.ofList event.context } = _
  rw [sound.context.1.ofList_eq]

theorem decodeLog_of_not_separate {event : LogEvent} (sound : event.Sound)
    (not : ¬ (TransportEvent.log event).Separate) :
    exists e, decodeLog false (.ofJson event.toJson) = .error e := by
  obtain ⟨name, r, mem, field⟩ : exists name r, (name, r) ∈ event.context ∧
      name ∈ LogEvent.fieldNames := by
    apply Classical.byContradiction
    intro none
    apply not
    intro name r mem field
    exact none ⟨name, r, mem, field⟩
  have complete : LogFields.Complete { timestamp? := some event.timestamp
                                       level? := some event.level
                                       message? := some event.message } :=
    ⟨rfl, rfl, rfl⟩
  obtain ⟨e, refused⟩ := foldMembers_context_error sound.context.2 complete mem field
  rw [decodeLog_toJson_eq sound, refused]
  exact ⟨e, rfl⟩

/-! ## Events -/

theorem decodeEvent_tagged (name : String) {type : EventType} (data : Json)
    (known : decodeEventType (.string name) = .ok type) :
    decodeEvent (.ofJson (.object [("type", .string name), ("data", data)])) =
      decodeData false type (.ofJson data) := by
  have first : EventFields.step .nothing "type" (.string name) = .ok (.typeKnown type) := by
    show (decodeEventType (.string name)).bind _ = _
    rw [known]
    rfl
  show (foldMembers EventFields.step .nothing
    [("type", .string name), ("data", .ofJson data)] .closed).bind EventFields.finish = _
  rw [foldMembers_cons first]
  show ((((decodeData false type (.ofJson data)).bind fun event => .ok (.whole event)).bind
    fun fields => .ok fields).bind EventFields.finish) = _
  cases decodeData false type (.ofJson data) <;> rfl

theorem decodeEvent_toJson {event : TransportEvent} (sound : event.Sound)
    (separate : event.Separate) : decodeEvent (.ofJson event.toJson) = .ok event := by
  cases event with
  | telemetry batch =>
      have read := decodeEvent_tagged "telemetry" batch.toJson rfl
      refine read.trans ?_
      show (decodeBatch false _).map _ = _
      rw [decodeBatch_toJson sound]
      rfl
  | log event =>
      have read := decodeEvent_tagged "log" event.toJson rfl
      refine read.trans ?_
      show (decodeLog false _).map _ = _
      rw [decodeLog_toJson sound separate]
      rfl

theorem decodeEvent_of_not_separate {event : TransportEvent} (sound : event.Sound)
    (not : ¬ event.Separate) : exists e, decodeEvent (.ofJson event.toJson) = .error e := by
  cases event with
  | telemetry batch => exact absurd trivial not
  | log event =>
      obtain ⟨e, refused⟩ := decodeLog_of_not_separate sound not
      refine ⟨e, (decodeEvent_tagged "log" event.toJson rfl).trans ?_⟩
      show (decodeLog false _).map _ = _
      rw [refused]
      rfl

end Wire
end RobotConsole
