import RobotConsole.Proofs.Json.Text
import RobotConsole.Proofs.Wire.Decode
import RobotConsole.Proofs.Wire.Decoded

/-!
# Events over the wire

The text of an event is decoded as that event, and so is the text of any event that was itself
decoded. A log event that has a field's name as a context key is refused. Floats are left out:
their decimal text need not be the same number again.
-/

namespace RobotConsole

namespace Wire

section

variable {α : Type} {decode : Json.Draft -> Decoded α}

theorem decodeText_compact (decode : Json.Draft -> Decoded α) (style : Json.FloatStyle) {j : Json}
    (plain : j.Plain) (shallow : j.depth ≤ Json.Draft.depthLimit) :
    decodeText decode (j.compact style) = decode (.ofJson j) := by
  unfold decodeText Json.compact
  rw [String.toList_ofList]
  unfold decodeChars
  rw [Json.Draft.read_compactChars style plain shallow]
  show (decode (.ofJson j)).bind _ = _
  cases decode (.ofJson j) with
  | error e => rfl
  | ok a => rfl

theorem decode_of_decodeText {text : String} {a : α} (read : decodeText decode text = .ok a) :
    decode (Json.Draft.read text.toList).1 = .ok a := by
  unfold decodeText decodeChars at read
  generalize Json.Draft.read text.toList = out at read ⊢
  obtain ⟨draft, rest⟩ := out
  obtain ⟨_, decoded, finished⟩ := exists_of_bind read
  split at finished
  · cases finished
    exact decoded
  · cases finished

end

end Wire

namespace TransportEvent

variable {event : TransportEvent}

theorem parse_compact (style : Json.FloatStyle) (sound : event.Sound) (free : event.FloatFree)
    (shallow : event.toJson.depth ≤ Json.Draft.depthLimit) :
    parse (event.toJson.compact style) = Wire.decodeEvent (.ofJson event.toJson) :=
  Wire.decodeText_compact Wire.decodeEvent style (event.plain_toJson sound free) shallow

theorem within_of_parse {text : String} (read : parse text = .ok event) :
    Wire.EventWithin Json.Draft.depthLimit event := by
  have within := Json.Draft.within_readValue (2 * text.toList.length + 2) (123 + 4) text.toList
  exact Wire.decodeEvent_within within (Wire.decode_of_decodeText read)

/-- What comes back of an event that is sent as text, and of one that came as text. -/
theorem round_trip (style : Json.FloatStyle) :
    (forall event : TransportEvent, event.Sound -> event.FloatFree ->
      event.toJson.depth ≤ Json.Draft.depthLimit ->
        (event.Separate -> parse (event.toJson.compact style) = .ok event) ∧
        (¬ event.Separate -> exists e, parse (event.toJson.compact style) = .error e)) ∧
      forall text event, parse text = .ok event -> event.FloatFree ->
        parse (event.toJson.compact style) = .ok event := by
  constructor
  · intro event sound free shallow
    rw [parse_compact style sound free shallow]
    exact ⟨Wire.decodeEvent_toJson sound, Wire.decodeEvent_of_not_separate sound⟩
  · intro text event read free
    have within := within_of_parse read
    rw [parse_compact style within.sound free within.shallow]
    exact Wire.decodeEvent_toJson within.sound within.separate

def isBareLog : TransportEvent -> Bool
  | telemetry _ => false
  | log event => event.context.isEmpty

/-- A batch, a log event with a context key by the name `event`, and a log event that came with
its data first and by the other names. -/
theorem round_trip_mixed :
    parse (telemetry { kind := .gamepad, timestamp? := some 5
                       samples := [(⟨7, by decide⟩, [("battery", .int 84)])] }).toJson.compact =
      .ok (telemetry { kind := .gamepad, timestamp? := some 5
                       samples := [(⟨7, by decide⟩, [("battery", .int 84)])] }) ∧
    (exists e, parse (log { timestamp := 5, level := .info, message := "ready"
                            context := [("event", .bool true)] }).toJson.compact = .error e) ∧
    exists event, parse
      "\x7b\"data\":\x7b\"event\":\"low\",\"level\":\"warning\"\x7d,\"type\":\"log\"\x7d" =
        .ok event ∧ parse event.toJson.compact = .ok event := by
  obtain ⟨sent, received⟩ := round_trip Numeric.literalText
  refine ⟨?_, ?_, ?_⟩
  · refine (sent (telemetry _) { timestamp := ?_, samples := ?_, readings := ?_ } ?_ ?_).1 trivial
    · rintro t ⟨⟩
      rfl
    · exact List.pairwise_singleton _ _
    · intro id readings mem
      cases List.mem_singleton.1 mem
      refine ⟨List.pairwise_singleton _ _, ?_⟩
      intro name r mem
      cases List.mem_singleton.1 mem
      exact .int rfl
    · intro id readings mem name r given
      cases List.mem_singleton.1 mem
      cases List.mem_singleton.1 given
      exact .int 84
    · decide +kernel
  · refine (sent (log _) { timestamp := rfl, context := ⟨?_, ?_⟩ } ?_ ?_).2 ?_
    · exact List.pairwise_singleton _ _
    · intro name r mem
      cases List.mem_singleton.1 mem
      exact .bool true
    · intro name r mem
      cases List.mem_singleton.1 mem
      exact .bool true
    · decide +kernel
    · decide +kernel
  · have bare : (parse
        "\x7b\"data\":\x7b\"event\":\"low\",\"level\":\"warning\"\x7d,\"type\":\"log\"\x7d").toOption.any
          isBareLog = true := by
      decide +kernel
    generalize read : parse
      "\x7b\"data\":\x7b\"event\":\"low\",\"level\":\"warning\"\x7d,\"type\":\"log\"\x7d" = out at bare ⊢
    cases out with
    | error e => cases bare
    | ok event => cases event with
      | telemetry batch => cases bare
      | log event =>
          refine ⟨log event, rfl, received _ _ read ?_⟩
          intro name r mem
          rw [List.isEmpty_iff.1 bare] at mem
          cases mem

end TransportEvent
end RobotConsole
