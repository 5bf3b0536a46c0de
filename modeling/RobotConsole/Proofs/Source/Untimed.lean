import Mathlib.Algebra.Order.BigOperators.Group.List
import RobotConsole.Proofs.Source.Pace
import RobotConsole.Proofs.Source.Recording

/-!
# Log lines without a time

A log line that states no time is decoded as one of time zero. So a recording replays such lines
as if they were from the epoch: they may set its origin, and may hold up what stands behind them.
-/

namespace RobotConsole

open Json (Draft)

/-! ## Times that a line states -/

def Json.Draft.hasMember (name : String) : Draft -> Bool
  | .object members _ => members.any fun member => member.1 = name
  | _ => false

namespace Wire

def statesTime (d : Draft) : Bool :=
  match recordMembers ["type", "data"] 2 d with
  | .ok (members, _) =>
      members.any fun member => member.1 = "data" && member.2.hasMember "timestamp_ms"
  | .error _ => false

end Wire

namespace Recording

/-- An event of a recording, and the time that its line states for it. -/
structure Entry where
  event : TransportEvent
  time? : Option Int

def statedTime? (d : Draft) : TransportEvent -> Option Int
  | .telemetry batch => batch.timestamp?
  | .log event => if Wire.statesTime d then some event.timestamp else none

def carried? (line : List Char) : Option Entry :=
  ((readLine line).bind Except.toOption).map fun event =>
    { event, time? := statedTime? (Draft.read (Text.trimChars line)).1 event }

def Entry.isUntimedLog (entry : Entry) : Bool :=
  match entry.event with
  | .log _ => entry.time?.isNone
  | .telemetry _ => false

def Entry.others (entry : Entry) : Bool :=
  !entry.isUntimedLog

def allEntries (cs : List Char) : List Entry :=
  (Text.lines cs).filterMap carried?

def holdsUntimedLog (line : List Char) : Bool :=
  (carried? line).any Entry.isUntimedLog

/-- The text without its lines that hold a log event and state no time. -/
def withoutUntimedLogs (text : String) : String :=
  String.ofList (['\n'].intercalate
    ((Text.splitAll '\n' text.toList).filter fun line => !holdsUntimedLog line))

def firstTime? (entries : List Entry) : Option Int :=
  entries.findSome? Entry.time?

/-- Of the times at which the first of these entries came, those of the other events. -/
def timesOfOthers (entries : List Entry) (times : List Nat) : List Nat :=
  ((times.zip entries).filter fun came => came.2.others).map Prod.fst

/-- How long an event of a given time has to wait after one of another time. -/
def waitSince (first time : Int) : Int :=
  Numeric.wrapInt64 (time - first)

/-- Log lines without a time that hold nothing up. -/
structure UntimedLogsHarmless (entries : List Entry) (first : Int) : Prop where
  /-- None stands before the first line with a time, unless that time is zero. -/
  origin : first ≠ 0 -> forall before entry after, entries = before ++ entry :: after ->
    entry.isUntimedLog -> exists timed, timed ∈ before ∧ timed.time?.isSome
  /-- What stands behind one waits at least as long as an event of time zero anyway. -/
  reached : forall before entry after, entries = before ++ entry :: after ->
    entry.others -> (exists untimed, untimed ∈ before ∧ untimed.isUntimedLog) ->
      waitSince first 0 ≤ 0 ∨ exists timed time, timed ∈ before ++ [entry] ∧
        timed.time? = some time ∧ waitSince first 0 ≤ waitSince first time

end Recording

/-! ## Decoding without a time -/

namespace Json.Draft

theorem hasMember_ofJson {d : Draft} {j : Json} (held : d.value? = some j) {name : String}
    (without : d.hasMember name = false) : (ofJson j).hasMember name = false := by
  cases j with
  | object members =>
      cases d with
      | object drafts ending =>
          cases ending with
          | closed =>
              obtain ⟨js, held, same⟩ := Option.map_eq_some_iff.1 held
              cases same
              unfold hasMember at without ⊢
              rw [List.any_eq_false] at without
              show (ofMembers members).any _ = false
              rw [ofMembers_eq, List.any_map, List.any_eq_false]
              rintro ⟨other, value⟩ mem
              obtain ⟨draft, given, -⟩ := mem_of_members? held mem
              exact without (other, draft) given
          | unreadable => cases held
          | broken => cases held
      | array items ending => cases ending <;> simp [value?] at held
      | _ => cases held
  | _ => rfl

end Json.Draft

namespace Wire

open Recording

variable {d : Draft}

theorem timestamp_of_decodeLog {setAside : Bool} {event : LogEvent}
    (read : decodeLog setAside d = .ok event) (without : d.hasMember "timestamp_ms" = false) :
    event.timestamp = 0 := by
  cases d with
  | object members ending =>
      obtain ⟨fields, done, finished⟩ := exists_of_bind read
      have unset : fields.timestamp? = none := by
        apply foldMembers_induction (P := fun fields => fields.timestamp? = none) done rfl
        intro fields name value next mem unset step
        have other : name ≠ "timestamp_ms" := by
          unfold Json.Draft.hasMember at without
          rw [List.any_eq_false] at without
          simpa using without (name, value) mem
        unfold LogFields.step at step
        rw [if_neg other] at step
        split at step
        · obtain ⟨_, _, same⟩ := exists_of_bind step
          cases same
          exact unset
        split at step
        · obtain ⟨_, _, same⟩ := exists_of_bind step
          cases same
          exact unset
        · obtain ⟨_, _, same⟩ := exists_of_bind step
          cases same
          exact unset
      unfold LogFields.finish at finished
      split at finished
      · cases finished
      · cases finished
        rw [unset]
        rfl
  | _ => cases read

theorem timestamp_of_decodeData {setAside : Bool} {type : EventType} {event : LogEvent}
    (read : decodeData setAside type d = .ok (.log event))
    (without : d.hasMember "timestamp_ms" = false) : event.timestamp = 0 := by
  cases type with
  | telemetry =>
      obtain ⟨_, _, same⟩ := exists_of_map read
      cases same
  | log =>
      obtain ⟨_, decoded, same⟩ := exists_of_map read
      cases same
      exact timestamp_of_decodeLog decoded without

def EventFields.Untimed : EventFields -> Prop
  | nothing => True
  | typeKnown _ => True
  | dataSetAside data => (Draft.ofJson data).hasMember "timestamp_ms" = false
  | whole event => forall log, event = .log log -> log.timestamp = 0

theorem EventFields.Untimed.step {fields next : EventFields} {name : String}
    (untimed : fields.Untimed) (without : name = "data" -> d.hasMember "timestamp_ms" = false)
    (done : EventFields.step fields name d = .ok next) : next.Untimed := by
  unfold EventFields.step at done
  split at done
  · split at done
    · obtain ⟨type, _, same⟩ := exists_of_bind done
      cases same
      trivial
    · obtain ⟨type, _, done⟩ := exists_of_bind done
      obtain ⟨event, read, same⟩ := exists_of_bind done
      cases same
      rintro log rfl
      exact timestamp_of_decodeData read untimed
    · cases done
  split at done
  · split at done
    · obtain ⟨j, read, same⟩ := exists_of_bind done
      cases same
      unfold decodeValue at read
      split at read
      case h_1 held =>
        cases read
        exact Json.Draft.hasMember_ofJson held (without ‹_›)
      case h_2 => cases read
    · obtain ⟨event, read, same⟩ := exists_of_bind done
      cases same
      rintro log rfl
      exact timestamp_of_decodeData read (without ‹_›)
    · cases done
  · obtain ⟨_, _, same⟩ := exists_of_bind done
    cases same
    exact untimed

theorem timestamp_of_decodeEvent {event : LogEvent} (read : decodeEvent d = .ok (.log event))
    (without : statesTime d = false) : event.timestamp = 0 := by
  obtain ⟨⟨members, ending⟩, given, read⟩ := exists_of_bind read
  obtain ⟨fields, done, read⟩ := exists_of_bind read
  unfold statesTime at without
  rw [given] at without
  dsimp only at without
  rw [List.any_eq_false] at without
  have untimed : fields.Untimed := by
    apply foldMembers_induction done trivial
    intro fields name value next mem untimed step
    refine untimed.step ?_ step
    intro data
    simpa [data] using without (name, value) mem
  cases fields with
  | whole event =>
      cases read
      exact untimed _ rfl
  | _ => cases read

end Wire

namespace Recording

/-! ## Entries -/

theorem Entry.time?_of_isUntimedLog {entry : Entry} (untimed : entry.isUntimedLog) :
    entry.time? = none := by
  unfold isUntimedLog at untimed
  split at untimed
  · exact Option.isNone_iff_eq_none.1 untimed
  · cases untimed

/-- A log event that states no time has the time zero, and any other event the time it states. -/
def Entry.Faithful (entry : Entry) : Prop :=
  entry.event.recordedAt? = if entry.isUntimedLog then some 0 else entry.time?

theorem faithful_of_carried {line : List Char} {entry : Entry} (held : carried? line = some entry) :
    entry.Faithful := by
  obtain ⟨event, read, rfl⟩ := Option.map_eq_some_iff.1 held
  cases event with
  | telemetry batch => rfl
  | log event =>
      unfold Entry.Faithful Entry.isUntimedLog statedTime?
      dsimp only
      split
      case isTrue stated => rfl
      case isFalse unstated =>
        have zero := Wire.timestamp_of_decodeEvent (decodeEvent_of_readLine read)
          (Bool.not_eq_true _ ▸ unstated)
        exact congrArg some zero

theorem faithful_of_mem_allEntries {cs : List Char} {entry : Entry}
    (mem : entry ∈ allEntries cs) : entry.Faithful := by
  obtain ⟨line, -, held⟩ := List.mem_filterMap.1 mem
  exact faithful_of_carried held

theorem allEntries_eq (cs : List Char) :
    allEntries cs = (Text.linesBy '\n' cs).filterMap carried? := by
  apply Text.filterMap_lines
  intro line
  unfold carried?
  rw [readLine_dropReturn, Text.trimChars_dropReturn]

theorem events_eq_map (cs : List Char) : events cs = (allEntries cs).map Entry.event := by
  rw [allEntries_eq, events_eq, List.map_filterMap]
  congr 1
  funext line
  unfold carried?
  rw [Option.map_map]
  exact (Option.map_id' (x := (readLine line).bind Except.toOption)).symm

/-! ## Deleting lines -/

theorem allEntries_eq_filterMap_splitOn (cs : List Char) :
    allEntries cs = (cs.splitOn '\n').filterMap carried? := by
  obtain ⟨pieces, last, split⟩ :=
    (List.eq_nil_or_concat (cs.splitOn '\n')).resolve_left (List.splitOn_ne_nil '\n' cs)
  rw [allEntries_eq]
  unfold Text.linesBy
  rw [split, List.concat_eq_append, List.getLast?_concat, List.dropLast_concat]
  split
  case isTrue empty =>
    cases Option.some.inj empty
    rw [List.filterMap_append, show [[]].filterMap carried? = [] from rfl, List.append_nil]
  case isFalse => rfl

theorem filterMap_filter_holdsUntimedLog (lines : List (List Char)) :
    (lines.filter fun line => !holdsUntimedLog line).filterMap carried? =
      (lines.filterMap carried?).filter Entry.others := by
  rw [List.filterMap_filter, List.filter_filterMap]
  congr 1
  funext line
  unfold holdsUntimedLog Entry.others
  cases carried? line with
  | none => simp
  | some entry => cases entry.isUntimedLog <;> simp [Option.filter]

theorem allEntries_withoutUntimedLogs (text : String) :
    allEntries (withoutUntimedLogs text).toList =
      (allEntries text.toList).filter Entry.others := by
  unfold withoutUntimedLogs
  rw [allEntries_eq_filterMap_splitOn, allEntries_eq_filterMap_splitOn, String.toList_ofList,
    Text.splitAll_eq_splitOn, ← filterMap_filter_holdsUntimedLog]
  generalize kept : (text.toList.splitOn '\n').filter _ = lines
  by_cases none : lines = []
  · rw [none]
    rfl
  · rw [List.splitOn_intercalate '\n' _ none]
    intro line mem
    rw [← kept] at mem
    exact Text.not_mem_of_mem_splitOn '\n' (List.mem_filter.1 mem).1

/-! ## When the lines come -/

section

variable {entries : List Entry} {first : Int}

theorem origin_eq_first_iff (faithful : forall entry, entry ∈ entries -> entry.Faithful)
    (stated : firstTime? entries = some first) :
    entries.findSome? (fun entry => entry.event.recordedAt?) = some first ↔
      (first ≠ 0 -> forall before entry after, entries = before ++ entry :: after ->
        entry.isUntimedLog -> exists timed, timed ∈ before ∧ timed.time?.isSome) := by
  induction entries with
  | nil => cases stated
  | cons entry rest ih =>
      obtain ⟨here, later⟩ := List.forall_mem_cons.1 faithful
      unfold Entry.Faithful at here
      unfold firstTime? at stated ih
      rw [List.findSome?_cons] at stated
      rw [forall_split_cons, List.findSome?_cons, here]
      by_cases untimed : entry.isUntimedLog
      · rw [if_pos untimed]
        constructor
        · intro zero nonzero
          exact absurd (Option.some.inj zero).symm nonzero
        · intro harmless
          by_contra other
          have nonzero : first ≠ 0 := fun zero => other (congrArg some zero.symm)
          obtain ⟨timed, mem, -⟩ := (harmless nonzero).1 untimed
          cases mem
      · rw [if_neg untimed]
        cases time : entry.time? with
        | some t =>
            rw [time] at stated
            cases stated
            refine iff_of_true rfl fun _ => ⟨fun log => absurd log untimed, ?_⟩
            intro before other after _ _
            exact ⟨entry, List.mem_cons_self, by rw [time]; rfl⟩
        | none =>
            rw [time] at stated
            simpa [untimed, time] using ih later stated

def Entry.wait? (origin? : Option Int) (entry : Entry) : Option Int :=
  entry.event.recordedAt?.bind fun recorded => origin?.map fun origin => waitSince origin recorded

theorem Entry.passedBy_iff {entry : Entry} (faithful : entry.Faithful) (time : Nat) :
    PassedBy time (entry.wait? (some first)) ↔
      if entry.isUntimedLog then waitSince first 0 ≤ time
      else forall stated, entry.time? = some stated -> waitSince first stated ≤ time := by
  unfold PassedBy Entry.wait?
  rw [show entry.event.recordedAt? = _ from faithful]
  split
  · simp
  · cases entry.time? <;> simp

theorem others_wait_alike_iff (faithful : forall entry, entry ∈ entries -> entry.Faithful) :
    pacesOfKept Entry.others (Entry.wait? (some first)) 0 entries =
        paces 0 ((entries.filter Entry.others).map (Entry.wait? (some first))) ↔
      forall before entry after, entries = before ++ entry :: after -> entry.others ->
        (exists untimed, untimed ∈ before ∧ untimed.isUntimedLog) ->
          waitSince first 0 ≤ 0 ∨ exists timed time, timed ∈ before ++ [entry] ∧
            timed.time? = some time ∧ waitSince first 0 ≤ waitSince first time := by
  rw [pacesOfKept_eq_iff]
  refine forall_congr' fun before => forall_congr' fun entry => forall_congr' fun after =>
    forall_congr' fun split => forall_congr' fun other => ?_
  have front : before ++ [entry] <+: entries :=
    ⟨after, (List.append_cons before entry after ▸ split).symm⟩
  have passed (y : Entry) (mem : y ∈ before ++ [entry]) (time : Nat) :
      PassedBy time (y.wait? (some first)) ↔ _ :=
    Entry.passedBy_iff (faithful y (front.subset mem)) time
  constructor
  · rintro alike ⟨untimed, mem, log⟩
    by_contra early
    simp only [not_or, not_exists, not_and] at early
    obtain ⟨waits, earlier⟩ := early
    have mem := List.mem_append_left [entry] mem
    -- One millisecond before the untimed event is due, all the others are.
    have through := ((alike (waitSince first 0 - 1).toNat).2 ⟨Nat.zero_le _, ?_⟩).2 untimed mem
    · rw [passed untimed mem, if_pos log] at through
      omega
    · intro y mem kept
      rw [passed y mem, if_neg (by simpa [Entry.others] using kept)]
      intro stated time
      have := earlier y stated mem time
      omega
  · intro reached time
    refine and_congr_right' ⟨fun all y mem _ => all y mem, ?_⟩
    intro kept y mem
    by_cases log : y.isUntimedLog
    · have behind : y ∈ before := by
        rcases List.mem_append.1 mem with mem | mem
        · exact mem
        · cases List.mem_singleton.1 mem
          simp [Entry.others, log] at other
      rw [passed y mem, if_pos log]
      rcases reached ⟨y, behind, log⟩ with atOnce | ⟨timed, stated, mem, given, late⟩
      · omega
      · have isOther : ¬ timed.isUntimedLog := by
          intro untimed
          rw [Entry.time?_of_isUntimedLog untimed] at given
          cases given
        have through := kept timed mem (by simpa [Entry.others] using isOther)
        rw [passed timed mem, if_neg isOther] at through
        have := through stated given
        omega
    · exact kept y mem (by simpa [Entry.others] using log)

theorem origin_of_others (faithful : forall entry, entry ∈ entries -> entry.Faithful) :
    (entries.filter Entry.others).findSome? (fun entry => entry.event.recordedAt?) =
      firstTime? entries := by
  induction entries with
  | nil => rfl
  | cons entry rest ih =>
      obtain ⟨here, later⟩ := List.forall_mem_cons.1 faithful
      unfold Entry.Faithful at here
      unfold firstTime? at ih ⊢
      rw [List.filter_cons, List.findSome?_cons, ← ih later]
      unfold Entry.others
      by_cases untimed : entry.isUntimedLog
      · rw [Entry.time?_of_isUntimedLog untimed, untimed]
        rfl
      · rw [Bool.not_eq_true] at untimed
        rw [untimed] at here ⊢
        rw [Bool.not_false, if_pos rfl, List.findSome?_cons, here]
        rfl

theorem passedBy_of_no_time (faithful : forall entry, entry ∈ entries -> entry.Faithful)
    (unstated : firstTime? entries = none) {origin? : Option Int}
    (origin : forall origin, origin? = some origin -> origin = 0) {entry : Entry}
    (mem : entry ∈ entries) (time : Nat) : PassedBy time (entry.wait? origin?) := by
  have recorded := faithful entry mem
  rw [Entry.Faithful, List.findSome?_eq_none_iff.1 unstated entry mem] at recorded
  unfold PassedBy Entry.wait?
  rw [recorded]
  split
  · cases origin? with
    | none => simp
    | some origin' =>
        rw [origin origin' rfl]
        rintro _ ⟨⟩
        exact Int.natCast_nonneg time
  · simp

theorem origin_of_no_time (faithful : forall entry, entry ∈ entries -> entry.Faithful)
    (unstated : firstTime? entries = none) (origin : Int)
    (found : entries.findSome? (fun entry => entry.event.recordedAt?) = some origin) :
    origin = 0 := by
  obtain ⟨entry, mem, recorded⟩ := List.exists_of_findSome?_eq_some found
  rw [show entry.event.recordedAt? = _ from faithful entry mem,
    List.findSome?_eq_none_iff.1 unstated entry mem] at recorded
  split at recorded
  · exact (Option.some.inj recorded).symm
  · cases recorded

theorem dueTimes_map_event (entries : List Entry) :
    dueTimes (entries.map Entry.event) = paces 0 (entries.map
      (Entry.wait? (entries.findSome? fun entry => entry.event.recordedAt?))) := by
  unfold dueTimes
  rw [List.map_map]
  congr 2
  funext entry
  show (Recording.offset? (entries.map Entry.event) entry.event).map _ = _
  unfold Entry.wait? Recording.offset?
  rw [List.findSome?_map, Option.map_bind]
  congr 1
  funext recorded
  exact Option.map_map Numeric.wrapInt64 (recorded - ·) _

end

end Recording

namespace RecordedSource

open Recording

section

variable (path text : String)

/-- By all prompt polls the others come at the same times if and only if they can be released at
the same times. -/
theorem forall_prompt_iff :
    let entries := allEntries text.toList
    let whole : RecordedSource := { path, file := .ok (Text.encodeUtf8 text) }
    let rest : RecordedSource := { path, file := .ok (Text.encodeUtf8 (withoutUntimedLogs text)) }
    (forall start later, whole.Prompt start later -> rest.Prompt start later ->
        timesOfOthers entries (whole.delays start later) = rest.delays start later) ↔
      pacesOfKept Entry.others
          (Entry.wait? (entries.findSome? fun entry => entry.event.recordedAt?)) 0 entries =
        paces 0 ((entries.filter Entry.others).map
          (Entry.wait? ((entries.filter Entry.others).findSome?
            fun entry => entry.event.recordedAt?))) := by
  intro entries whole rest
  have wholePending (now : Instant) : (whole.load now).pending = entries.map Entry.event := by
    rw [pending_load, events_eq_map]
  have restPending (now : Instant) :
      (rest.load now).pending = (entries.filter Entry.others).map Entry.event := by
    rw [pending_load, events_eq_map, allEntries_withoutUntimedLogs]
  have wholeTimes (now : Instant) := congrArg dueTimes (wholePending now)
  have restTimes (now : Instant) := congrArg dueTimes (restPending now)
  simp only [dueTimes_map_event] at wholeTimes restTimes
  constructor
  · intro alike
    -- Polls in every millisecond until all has come are prompt for both.
    let last := (dueTimes (whole.load start).pending).sum + (dueTimes (rest.load start).pending).sum
    have wholePrompt := prompt_dense path whole.file entries.length last <| by
      rw [wholePending, List.length_map]
      exact Nat.le_succ _
    have restPrompt := prompt_dense path rest.file entries.length last <| by
      rw [restPending, List.length_map]
      exact Nat.le_succ_of_le (List.length_filter_le _ _)
    have same := alike start _ wholePrompt restPrompt
    unfold Prompt at wholePrompt restPrompt
    rw [span_dense, upTo_of_le fun n mem =>
      Nat.le_add_right_of_le (List.le_sum_of_mem mem)] at wholePrompt
    rw [span_dense, upTo_of_le fun n mem =>
      Nat.le_add_left_of_le (List.le_sum_of_mem mem)] at restPrompt
    rw [wholePrompt, restPrompt, wholeTimes, restTimes] at same
    exact same
  · intro alike start later wholePrompt restPrompt
    rw [wholePrompt, restPrompt, wholeTimes, restTimes, ← alike]
    exact upTo_pacesOfKept Entry.others _ 0 _ entries

/-- Log lines that state no time leave the origin of a recording at the first time that is stated,
and leave every other event when it is released, by all polls that are prompt for the recording
with them and without them, if and only if these lines are harmless. -/
theorem untimed_logs_delay_nothing_iff :
    let entries := allEntries text.toList
    let whole : RecordedSource := { path, file := .ok (Text.encodeUtf8 text) }
    let rest : RecordedSource := { path, file := .ok (Text.encodeUtf8 (withoutUntimedLogs text)) }
    ((forall now first, firstTime? entries = some first ->
        (whole.load now).origin? = some first) ∧
      forall start later, whole.Prompt start later -> rest.Prompt start later ->
        timesOfOthers entries (whole.delays start later) = rest.delays start later) ↔
    forall first, firstTime? entries = some first -> UntimedLogsHarmless entries first := by
  intro entries whole rest
  have faithful (entry : Entry) (mem : entry ∈ entries) : entry.Faithful :=
    faithful_of_mem_allEntries mem
  have origin (now : Instant) :
      (whole.load now).origin? = entries.findSome? fun entry => entry.event.recordedAt? := by
    rw [(load_frame whole now).2, pending_load, events_eq_map, List.findSome?_map]
    rfl
  simp only [origin]
  refine (and_congr_right' (forall_prompt_iff path text)).trans ?_
  rw [origin_of_others faithful]
  cases stated : firstTime? entries with
  | none =>
      refine iff_of_true ⟨nofun, ?_⟩ nofun
      apply (pacesOfKept_eq_iff ..).2
      intro before entry after split _ time
      have front : before ++ [entry] <+: entries :=
        ⟨after, (List.append_cons before entry after ▸ split).symm⟩
      refine iff_of_true ⟨Nat.zero_le _, ?_⟩ ⟨Nat.zero_le _, ?_⟩
      · intro y mem
        exact passedBy_of_no_time faithful stated (origin_of_no_time faithful stated)
          (front.subset mem) time
      · intro y mem _
        exact passedBy_of_no_time faithful stated (by rintro _ ⟨⟩) (front.subset mem) time
  | some first =>
      have originIff := origin_eq_first_iff faithful stated
      simp only [Option.some.injEq, forall_eq', forall_const]
      constructor
      · rintro ⟨atFirst, alike⟩
        rw [atFirst] at alike
        exact ⟨originIff.1 atFirst, (others_wait_alike_iff faithful).1 alike⟩
      · intro harmless
        have atFirst := originIff.2 harmless.origin
        refine ⟨atFirst, ?_⟩
        rw [atFirst]
        exact (others_wait_alike_iff faithful).2 harmless.reached

/-- With its one line that states no time the recording begins at the epoch, and does not get to the
other line for eleven days; without it that line is released by the first poll. -/
theorem untimed_log_holds_up_other :
    let text :=
      "\x7b\"type\":\"log\",\"data\":\x7b\"level\":\"info\",\"message\":\"no stamp\"\x7d\x7d\n" ++
      "\x7b\"type\":\"log\",\"data\":\x7b\"timestamp_ms\":1000000000," ++
      "\"level\":\"info\",\"message\":\"far\"\x7d\x7d"
    let entries := allEntries text.toList
    let whole : RecordedSource :=
      { path := "session.ndjson", file := .ok (Text.encodeUtf8 text) }
    let rest : RecordedSource :=
      { path := "session.ndjson", file := .ok (Text.encodeUtf8 (withoutUntimedLogs text)) }
    firstTime? entries = some 1000000000 ∧ (whole.load start).origin? = some 0 ∧
      whole.Prompt start [start] ∧ rest.Prompt start [start] ∧
      timesOfOthers entries (whole.delays start [start]) = [] ∧
      rest.delays start [start] = [0] := by
  decide +kernel

end

end RecordedSource
end RobotConsole
