import RobotConsole.Proofs.Wire.Reading
import RobotConsole.Wire.Telemetry

/-!
# Events that can be held

The invariants of batches and log events: times of 64 bits, and no key of a dictionary twice.
An event without floats that can be held has a JSON value that a reader takes as it is.
-/

namespace RobotConsole

/-! ## Entries -/

def ParameterReadings.Sound (readings : ParameterReadings) : Prop :=
  Dict.Ascending readings ∧ forall name r, (name, r) ∈ readings -> r.Sound

def ParameterReadings.FloatFree (readings : ParameterReadings) : Prop :=
  forall name r, (name, r) ∈ readings -> r.FloatFree

/-! ## Events -/

structure TelemetryBatch.Sound (batch : TelemetryBatch) : Prop where
  timestamp : forall t, batch.timestamp? = some t -> Numeric.fitsInt64 t
  samples : Dict.Ascending batch.samples
  readings : forall id readings, (id, readings) ∈ batch.samples ->
    ParameterReadings.Sound readings

structure LogEvent.Sound (event : LogEvent) : Prop where
  timestamp : Numeric.fitsInt64 event.timestamp
  context : ParameterReadings.Sound event.context

def LogEvent.fieldNames : List String :=
  ["timestamp_ms", "level", "message", "event"]

namespace TransportEvent

/-- The invariants of an event. -/
def Sound : TransportEvent -> Prop
  | telemetry batch => batch.Sound
  | log event => event.Sound

/-- No reading of the event is a float or has one in it. -/
def FloatFree : TransportEvent -> Prop
  | telemetry batch =>
      forall id readings, (id, readings) ∈ batch.samples -> ParameterReadings.FloatFree readings
  | log event => ParameterReadings.FloatFree event.context

/-- No context key of a log event is the name of one of its fields. -/
def Separate : TransportEvent -> Prop
  | telemetry _ => True
  | log event => forall name r, (name, r) ∈ event.context -> name ∉ LogEvent.fieldNames

instance : DecidablePred Separate
  | telemetry _ => .isTrue trivial
  | log event =>
      decidable_of_iff (forall entry, entry ∈ event.context -> entry.1 ∉ LogEvent.fieldNames)
        ⟨fun all name r mem => all (name, r) mem, fun all entry mem => all entry.1 entry.2 mem⟩

end TransportEvent

/-! ## The JSON of events -/

section

variable {name : String} {value : Json}

theorem plain_entriesToJson {readings : ParameterReadings} (sound : readings.Sound)
    (free : readings.FloatFree) (mem : (name, value) ∈ Reading.entriesToJson readings) :
    value.Plain := by
  obtain ⟨r, given, rfl⟩ := Reading.mem_entriesToJson mem
  exact Reading.plain_toJson (sound.2 name r given) (free name r given)

theorem plain_integer {n : Int} (fits : Numeric.fitsInt64 n) : Json.Plain (.integer n) :=
  Reading.plain_toJson (.int fits) (.int n)

theorem TelemetryBatch.mem_samplesToJson (samples : SampleMap) :
    exists members, samplesToJson samples = .object members ∧
      forall name value, (name, value) ∈ members -> exists id readings, (id, readings) ∈ samples ∧
        value = .object (Reading.entriesToJson readings) := by
  refine ⟨_, rfl, ?_⟩
  intro name value mem
  obtain ⟨⟨id, readings⟩, given, same⟩ := List.mem_map.1 mem
  cases same
  exact ⟨id, readings, given, rfl⟩

theorem TelemetryBatch.mem_toJson (batch : TelemetryBatch) :
    exists members, batch.toJson = .object members ∧
      forall name value, (name, value) ∈ members ->
        (exists s, value = .string s) ∨ (exists b, value = .bool b) ∨
          (exists t, batch.timestamp? = some t ∧ value = .integer t) ∨
            value = samplesToJson batch.samples := by
  refine ⟨_, rfl, ?_⟩
  intro name value mem
  rcases List.mem_append.1 mem with mem | mem
  · rcases List.mem_cons.1 mem with same | mem
    · cases same
      exact .inl ⟨_, rfl⟩
    · cases stamp : batch.timestamp? with
      | none =>
          rw [stamp] at mem
          cases mem
      | some t =>
          rw [stamp] at mem
          cases List.mem_singleton.1 mem
          exact .inr (.inr (.inl ⟨t, rfl, rfl⟩))
  · rcases List.mem_cons.1 mem with same | mem
    · cases same
      exact .inr (.inr (.inr rfl))
    · cases List.mem_singleton.1 mem
      exact .inr (.inl ⟨_, rfl⟩)

theorem LogEvent.mem_toJson (event : LogEvent) :
    exists members, event.toJson = .object members ∧
      forall name value, (name, value) ∈ members ->
        (exists s, value = .string s) ∨ value = .integer event.timestamp ∨
          exists r, (name, r) ∈ event.context ∧ value = r.toJson := by
  refine ⟨_, rfl, ?_⟩
  intro name value mem
  simp only [List.mem_cons] at mem
  rcases mem with same | same | same | mem
  · cases same
    exact .inr (.inl rfl)
  · cases same
    exact .inl ⟨_, rfl⟩
  · cases same
    exact .inl ⟨_, rfl⟩
  · exact .inr (.inr (Reading.mem_entriesToJson mem))

theorem TelemetryBatch.plain_toJson {batch : TelemetryBatch} (sound : batch.Sound)
    (free : (TransportEvent.telemetry batch).FloatFree) : batch.toJson.Plain := by
  have samples : (samplesToJson batch.samples).Plain := by
    obtain ⟨members, json, inside⟩ := mem_samplesToJson batch.samples
    rw [json]
    apply Json.Plain.object
    intro name value mem
    obtain ⟨id, readings, given, rfl⟩ := inside name value mem
    apply Json.Plain.object
    intro name value mem
    exact plain_entriesToJson (sound.readings id readings given) (free id readings given) mem
  obtain ⟨members, json, inside⟩ := batch.mem_toJson
  rw [json]
  apply Json.Plain.object
  intro name value mem
  rcases inside name value mem with ⟨s, rfl⟩ | ⟨b, rfl⟩ | ⟨t, stamp, rfl⟩ | rfl
  · exact .string s
  · exact .bool b
  · exact plain_integer (sound.timestamp t stamp)
  · exact samples

theorem LogEvent.plain_toJson {event : LogEvent} (sound : event.Sound)
    (free : (TransportEvent.log event).FloatFree) : event.toJson.Plain := by
  obtain ⟨members, json, inside⟩ := event.mem_toJson
  rw [json]
  apply Json.Plain.object
  intro name value mem
  rcases inside name value mem with ⟨s, rfl⟩ | rfl | ⟨r, given, rfl⟩
  · exact .string s
  · exact plain_integer sound.timestamp
  · exact Reading.plain_toJson (sound.context.2 name r given) (free name r given)

theorem TransportEvent.plain_toJson {event : TransportEvent} (sound : event.Sound)
    (free : event.FloatFree) : event.toJson.Plain := by
  have tagged {type : String} {data : Json} (plain : data.Plain) :
      Json.Plain (.object [("type", .string type), ("data", data)]) := by
    apply Json.Plain.object
    intro name value mem
    simp only [List.mem_cons, List.not_mem_nil, or_false] at mem
    rcases mem with same | same <;> cases same
    · exact .string type
    · exact plain
  cases event with
  | telemetry batch => exact tagged (batch.plain_toJson sound free)
  | log event => exact tagged (event.plain_toJson sound free)

end

end RobotConsole
