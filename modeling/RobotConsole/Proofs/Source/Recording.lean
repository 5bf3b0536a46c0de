import Mathlib.Data.List.TakeWhile
import RobotConsole.Proofs.Source.Delivery
import RobotConsole.Proofs.Wire.Decoded

/-!
# Recordings and streams

The recorded format has two readers: a recording is taken apart as a text, a stream as bytes
that come in pieces. Both find the same events.
-/

namespace RobotConsole

open StreamMove

theorem Recording.readLine_dropReturn (line : List Char) :
    readLine (Text.dropReturn line) = readLine line := by
  unfold readLine
  rw [Text.trimChars_dropReturn]

theorem Recording.events_eq (cs : List Char) :
    Recording.events cs =
      (Text.linesBy '\n' cs).filterMap fun line => (Recording.readLine line).bind Except.toOption := by
  have each : (fun (numbered : List Char × Nat) =>
      ((Recording.readLine numbered.1).map fun entry => (numbered.2, entry)).bind
        fun entry => entry.2.toOption) =
      (fun line => (Recording.readLine line).bind Except.toOption) ∘ Prod.fst := by
    funext numbered
    exact Option.bind_map
  unfold Recording.events Recording.entries
  rw [List.filterMap_filterMap, each, ← List.filterMap_map, List.zipIdx_map_fst]
  apply Text.filterMap_lines
  intro line
  rw [readLine_dropReturn]

namespace Recording

theorem decodeEvent_of_readLine {line : List Char} {event : TransportEvent}
    (read : (readLine line).bind Except.toOption = some event) :
    Wire.decodeEvent (Json.Draft.read (Text.trimChars line)).1 = .ok event := by
  obtain ⟨decoded, line, good⟩ := Option.bind_eq_some_iff.1 read
  unfold readLine at line
  dsimp only at line
  split at line
  · cases line
  · cases line
    cases whole : Wire.decodeChars Wire.decodeEvent (Text.trimChars _) with
    | error e =>
        rw [whole] at good
        cases good
    | ok decoded =>
        rw [whole] at good
        cases good
        exact (Wire.decodeChars_eq_ok_iff.1 whole).1

end Recording

namespace StreamSource

theorem lineEvent?_flatMap (line : List Char) :
    lineEvent? (line.flatMap String.utf8EncodeChar) =
      some ((Recording.readLine line).bind Except.toOption) := by
  unfold lineEvent?
  rw [Text.decodeUtf8_eq_ok_iff.2 rfl]
  rfl

theorem eventsOf_encodeUtf8 (text : String) :
    eventsOf (linesOf (Text.encodeUtf8 text) .closed) = Recording.events text.toList := by
  have each : lineEvent? ∘ (fun line => line.flatMap String.utf8EncodeChar) =
      some ∘ fun line => (Recording.readLine line).bind Except.toOption :=
    funext lineEvent?_flatMap
  unfold linesOf eventsOf
  rw [if_pos rfl, Text.encodeUtf8_eq, show lineFeed = 10 from rfl, Text.linesBy_flatMap,
    List.map_map, each, Recording.events_eq, ← List.map_map,
    List.takeWhile_eq_self_iff.2 (by simp), List.filterMap_map, List.filterMap_map]
  rfl

end StreamSource

theorem RecordedSource.pending_load (path text : String) (now : Instant) :
    (RecordedSource.load { path, file := .ok (Text.encodeUtf8 text) } now).pending =
      Recording.events text.toList := by
  unfold RecordedSource.load RecordedSource.readText
  simp only [Text.decodeUtf8_encodeUtf8]

/-- A stream that is fed the bytes of a text and closed delivers what a recording with that text
releases: the first events of it after some polls, as many more as it is polled further, and all
of them once a poll finds nothing. -/
theorem StreamRun.polled_take_recording (path label text : String) (now : Instant)
    (moves : List StreamMove) (n : Nat) (bytes : fed moves = Text.encodeUtf8 text)
    (closed : ended moves = .closed) :
    let run := StreamRun.play label moves
    let recording := RecordedSource.load { path, file := .ok (Text.encodeUtf8 text) } now
    (StreamRun.play label (moves ++ List.replicate n .poll)).polled =
        recording.pending.take (run.polled.length + n) ∧
      (run.source.poll.1 = none -> run.polled = recording.pending) := by
  intro run recording
  have same : recording.pending =
      StreamSource.eventsOf (StreamSource.linesOf (fed moves) (ended moves)) := by
    rw [bytes, closed, StreamSource.eventsOf_encodeUtf8]
    exact RecordedSource.pending_load path text now
  rw [same]
  exact ⟨StreamRun.polled_append_polls label moves n, StreamRun.polled_of_drained label moves⟩

/-- A line that ends with a carriage return, a blank one, a malformed one and one without an
end, in two pieces. -/
theorem StreamRun.polled_take_recording_mixed :
    let front := "\x7b\"type\":\"log\",\"data\":\x7b\"mess"
    let rest := "age\":\"hi\"\x7d\x7d\r\n\n oops\n[\"log\",\x7b\"message\":\"ho\"\x7d]"
    let moves : List StreamMove :=
      [.feed (Text.encodeUtf8 front), .poll, .feed (Text.encodeUtf8 rest), .close]
    let recording := RecordedSource.load
      { path := "match.jsonl", file := .ok (Text.encodeUtf8 (front ++ rest)) } ⟨0, 0⟩
    (StreamRun.play "bridge" (moves ++ List.replicate 5 .poll)).polled =
      recording.pending.take ((StreamRun.play "bridge" moves).polled.length + 5) :=
  (StreamRun.polled_take_recording "match.jsonl" "bridge" _ ⟨0, 0⟩ _ 5 (by decide +kernel) rfl).1

end RobotConsole
