import RobotConsole.Proofs.Text.Lines
import RobotConsole.Source.Stream

/-!
# The reader of a stream

What the lines of a stream hold, and the account that the reader keeps of them: the events of
every line that it has read are polled, buffered or blocked, and in that order.
-/

namespace RobotConsole

namespace StreamSource

/-! ## The events of bytes -/

/-- The event of a line; none in a blank or malformed one. There is no answer for a line that is
no text. -/
def lineEvent? (line : List UInt8) : Option (Option TransportEvent) :=
  (Text.decodeUtf8 line).toOption.map fun cs => (Recording.readLine cs).bind Except.toOption

def eventsOf (lines : List (List UInt8)) : List TransportEvent :=
  ((lines.map lineEvent?).takeWhile Option.isSome).filterMap Option.join

/-- Only if the bytes were closed is a piece that no line feed ends a line. -/
def linesOf (bytes : List UInt8) (ending : StreamEnd) : List (List UInt8) :=
  if ending = .closed then Text.linesBy lineFeed bytes else (bytes.splitOn lineFeed).dropLast

def Readable (lines : List (List UInt8)) : Prop :=
  forall line, line ∈ lines -> (lineEvent? line).isSome

section

variable {line : List UInt8} {lines : List (List UInt8)}

theorem eventsOf_cons_of_text {event : Option TransportEvent}
    (text : lineEvent? line = some event) :
    eventsOf (line :: lines) = event.toList ++ eventsOf lines := by
  unfold eventsOf
  cases event <;> simp [text]

theorem eventsOf_cons_of_no_text (none : lineEvent? line = none) :
    eventsOf (line :: lines) = [] := by
  unfold eventsOf
  simp [none]

theorem readable_nil : Readable [] := by
  intro line mem
  cases mem

theorem readable_append : Readable (lines ++ [line]) ↔ Readable lines ∧ (lineEvent? line).isSome := by
  unfold Readable
  simp [or_imp, forall_and]

theorem eventsOf_append_of_readable (readable : Readable lines) (more : List (List UInt8)) :
    eventsOf (lines ++ more) = eventsOf lines ++ eventsOf more := by
  induction lines with
  | nil => rfl
  | cons line lines ih =>
      obtain ⟨event, text⟩ := Option.isSome_iff_exists.1 (readable line List.mem_cons_self)
      rw [List.cons_append, eventsOf_cons_of_text text, eventsOf_cons_of_text text,
        ih fun line mem => readable line (List.mem_cons_of_mem _ mem), List.append_assoc]

theorem eventsOf_append_of_not_readable (not : ¬ Readable lines) (more : List (List UInt8)) :
    eventsOf (lines ++ more) = eventsOf lines := by
  induction lines with
  | nil => exact absurd readable_nil not
  | cons line lines ih =>
      rw [List.cons_append]
      cases text : lineEvent? line with
      | none => rw [eventsOf_cons_of_no_text text, eventsOf_cons_of_no_text text]
      | some event =>
          have later : ¬ Readable lines := by
            intro readable
            apply not
            intro other mem
            rcases List.mem_cons.1 mem with rfl | mem
            · exact Option.isSome_of_eq_some text
            · exact readable other mem
          rw [eventsOf_cons_of_text text, eventsOf_cons_of_text text, ih later]

theorem eventsOf_prefix_append (lines more : List (List UInt8)) :
    eventsOf lines <+: eventsOf (lines ++ more) := by
  by_cases readable : Readable lines
  · rw [eventsOf_append_of_readable readable]
    exact List.prefix_append _ _
  · exact eventsOf_append_of_not_readable readable more ▸ List.prefix_rfl

end

theorem readLine_append_feed (cs : List Char) :
    Recording.readLine (cs ++ ['\n']) = Recording.readLine cs := by
  unfold Recording.readLine
  rw [Text.trimChars_append_blank (by decide)]

theorem lineEvent?_append_feed (line : List UInt8) :
    lineEvent? (line ++ [lineFeed]) = lineEvent? line := by
  unfold lineEvent?
  cases text : Text.decodeUtf8 line with
  | ok cs =>
      have whole := Text.decodeUtf8_append_feed.2 ⟨cs, text, rfl⟩
      rw [show line ++ [lineFeed] = line ++ [10] from rfl, whole]
      exact congrArg (fun event => some (Option.bind event Except.toOption)) (readLine_append_feed cs)
  | error e =>
      cases whole : Text.decodeUtf8 (line ++ [lineFeed]) with
      | ok cs =>
          obtain ⟨line', text', _⟩ := Text.decodeUtf8_append_feed.1 whole
          rw [text] at text'
          cases text'
      | error e' => rfl

theorem eventsOf_map_append_feed (lines : List (List UInt8)) (more : List (List UInt8)) :
    eventsOf (lines.map (· ++ [lineFeed]) ++ more) = eventsOf (lines ++ more) := by
  unfold eventsOf
  rw [List.map_append, List.map_append, List.map_map]
  have same : lineEvent? ∘ (· ++ [lineFeed]) = lineEvent? := funext lineEvent?_append_feed
  rw [same]

def handed (bytes : List UInt8) (ending : StreamEnd) : List (List UInt8) :=
  (bytes.splitOn lineFeed).dropLast.map (· ++ [lineFeed]) ++
    if ending = .closed ∧ Text.lastPiece lineFeed bytes ≠ [] then [Text.lastPiece lineFeed bytes]
    else []

theorem eventsOf_handed (bytes : List UInt8) (ending : StreamEnd) :
    eventsOf (handed bytes ending) = eventsOf (linesOf bytes ending) := by
  unfold handed linesOf
  rw [eventsOf_map_append_feed, Text.linesBy_eq_dropLast_append]
  by_cases closed : ending = .closed
  · by_cases empty : Text.lastPiece lineFeed bytes = []
    · rw [if_neg (by simp [empty]), if_pos closed, if_pos empty]
    · rw [if_pos ⟨closed, empty⟩, if_pos closed, if_neg empty]
  · rw [if_neg (by simp [closed]), if_neg closed, List.append_nil]

/-! ## What the reader does -/

structure Fits (s : StreamSource) : Prop where
  size : s.buffer.length ≤ streamCapacity
  full : s.blocked.isSome -> s.buffer.length = streamCapacity

structure Waits (s : StreamSource) : Prop extends Fits s where
  unread : s.reading = true -> s.blocked = none -> s.unread = []

structure Takes (s t : StreamSource) (line : List UInt8) : Prop where
  events : t.buffer ++ t.blocked.toList = s.buffer ++ eventsOf [line]
  reading : t.reading = (s.reading && (lineEvent? line).isSome)
  ending : t.ending = s.ending
  unfinished : t.unfinished = s.unfinished

section

variable {s : StreamSource}

theorem Fits.accept (h : s.Fits) (free : s.blocked = none) (event : TransportEvent) :
    (s.accept event).Fits := by
  unfold StreamSource.accept
  split
  · rename_i room
    constructor
    · rw [List.length_append]
      exact room
    · intro blocked
      simp [free] at blocked
  · rename_i room
    constructor
    · exact h.size
    · intro _
      exact Nat.le_antisymm h.size (Nat.le_of_not_lt room)

theorem Fits.takeLine (h : s.Fits) (free : s.blocked = none) (line : List UInt8) :
    (s.takeLine line).Fits := by
  unfold StreamSource.takeLine
  split
  · exact ⟨h.size, h.full⟩
  · split
    · exact h
    · exact h.accept free _
    · exact ⟨h.size, h.full⟩

theorem Fits.free (h : s.Fits) (empty : s.buffer = []) : s.blocked = none := by
  apply Option.not_isSome_iff_eq_none.1
  intro blocked
  have full := h.full blocked
  rw [empty] at full
  cases full

theorem accept_events (free : s.blocked = none) (event : TransportEvent) :
    (s.accept event).buffer ++ (s.accept event).blocked.toList = s.buffer ++ [event] := by
  unfold accept
  split <;> simp [free]

theorem accept_frame (s : StreamSource) (event : TransportEvent) :
    (s.accept event).reading = s.reading ∧ (s.accept event).ending = s.ending ∧
      (s.accept event).unfinished = s.unfinished := by
  unfold accept
  split <;> exact ⟨rfl, rfl, rfl⟩

theorem takes_takeLine (free : s.blocked = none) (line : List UInt8) :
    Takes s (s.takeLine line) line := by
  unfold takeLine
  cases text : Text.decodeUtf8 line with
  | error e =>
      have event : lineEvent? line = none := by
        unfold lineEvent?
        rw [text]
        rfl
      constructor
      · simp [stop, free, eventsOf_cons_of_no_text event]
      · simp [stop, event]
      · rfl
      · rfl
  | ok cs =>
      have event : lineEvent? line = some ((Recording.readLine cs).bind Except.toOption) := by
        unfold lineEvent?
        rw [text]
        rfl
      have events : eventsOf [line] = _ := eventsOf_cons_of_text event
      have reading : (s.reading && (lineEvent? line).isSome) = s.reading := by simp [event]
      dsimp only
      cases entry : Recording.readLine cs with
      | none =>
          rw [entry] at events
          constructor
          · rw [events, free]
            rfl
          · exact reading.symm
          · rfl
          · rfl
      | some decoded =>
          rw [entry] at events
          cases decoded with
          | error e =>
              constructor
              · rw [events]
                exact congrArg (s.buffer ++ Option.toList ·) free
              · exact reading.symm
              · rfl
              · rfl
          | ok e =>
              obtain ⟨goes, ending, unfinished⟩ := accept_frame s e
              constructor
              · rw [events]
                exact accept_events free e
              · exact goes.trans reading.symm
              · exact ending
              · exact unfinished

end

/-! ## The account of the reader -/

/-- All lines that were handed to the reader are accounted for: the events of those that it has
read are polled, buffered or blocked. A reader that has stopped has met a line that is no text,
or the end. -/
structure Accounts (polled : List TransportEvent) (s : StreamSource)
    (read unread : List (List UInt8)) : Prop where
  events : polled ++ s.buffer ++ s.blocked.toList = eventsOf read
  going : s.reading = true -> Readable read
  stopped : s.reading = false -> Readable read -> s.ending ≠ .ahead ∧ unread = []

section

variable {polled : List TransportEvent} {s t : StreamSource} {line : List UInt8}
  {read unread : List (List UInt8)}

theorem Accounts.takes (h : Accounts polled s read (line :: unread)) (reading : s.reading = true)
    (free : s.blocked = none) (takes : Takes s t line) :
    Accounts polled t (read ++ [line]) unread := by
  have readable := h.going reading
  constructor
  · rw [eventsOf_append_of_readable readable, ← h.events, List.append_assoc, takes.events, free]
    simp
  · intro goes
    rw [takes.reading, reading, Bool.true_and] at goes
    exact readable_append.2 ⟨readable, goes⟩
  · intro stops readable'
    rw [takes.reading, reading, Bool.true_and, (readable_append.1 readable').2] at stops
    cases stops

/-- The induction is on the lines; what was read grows with each. -/
theorem Accounts.takeLines {lines : List (List UInt8)} (h : Accounts polled s read lines)
    (fits : s.Fits) :
    exists more, lines = more ++ (s.takeLines lines).unread ∧
      Accounts polled (s.takeLines lines) (read ++ more) (s.takeLines lines).unread ∧
      (s.takeLines lines).Waits := by
  induction lines generalizing s read with
  | nil =>
      refine ⟨[], rfl, ?_, ⟨fits.size, fits.full⟩, fun _ _ => rfl⟩
      rw [List.append_nil]
      exact ⟨h.events, h.going, h.stopped⟩
  | cons line rest ih =>
      unfold StreamSource.takeLines
      split
      · rename_i halted
        refine ⟨[], rfl, ?_, ⟨fits.size, fits.full⟩, ?_⟩
        · rw [List.append_nil]
          exact ⟨h.events, h.going, h.stopped⟩
        · intro reading free
          have reading : s.reading = true := reading
          have free : s.blocked = none := free
          simp [reading, free] at halted
      · rename_i goes
        obtain ⟨reading, free⟩ : s.reading = true ∧ s.blocked = none := by simpa using goes
        obtain ⟨more, split, account, waits⟩ :=
          ih (h.takes reading free (takes_takeLine free line)) (fits.takeLine free line)
        refine ⟨line :: more, ?_, ?_, waits⟩
        · rw [List.cons_append, ← split]
        · rw [List.append_assoc] at account
          exact account

theorem Accounts.finish (h : Accounts polled s read s.unread) (waits : s.Waits) :
    Accounts polled s.finish read s.finish.unread ∧ s.finish.Waits := by
  unfold StreamSource.finish
  split
  · exact ⟨h, waits⟩
  · rename_i goes
    obtain ⟨reading, free⟩ : s.reading = true ∧ s.blocked = none := by simpa using goes
    have empty := waits.unread reading free
    have halt (fault : String) (past : s.ending ≠ .ahead) :
        Accounts polled (s.stop fault) read (s.stop fault).unread ∧ (s.stop fault).Waits := by
      constructor
      · exact ⟨h.events, nofun, fun _ _ => ⟨past, empty⟩⟩
      · exact ⟨⟨waits.size, waits.full⟩, nofun⟩
    split
    · exact ⟨h, waits⟩
    · exact halt _ (by simp [*])
    · exact halt _ (by simp [*])

theorem Accounts.unblock (h : Accounts polled s read unread)
    (size : s.buffer.length ≤ streamCapacity) :
    Accounts polled s.unblock read unread ∧ s.unblock.Fits := by
  unfold StreamSource.unblock
  split
  · rename_i event blocked
    split
    · rename_i room
      refine ⟨⟨?_, h.going, h.stopped⟩, ?_, nofun⟩
      · rw [← h.events, blocked]
        simp
      · rw [List.length_append]
        exact room
    · rename_i room
      exact ⟨h, size, fun _ => Nat.le_antisymm size (Nat.le_of_not_lt room)⟩
  · rename_i free
    exact ⟨h, size, by simp [free]⟩

theorem unblock_frame (s : StreamSource) :
    s.unblock.unread = s.unread ∧ s.unblock.ending = s.ending ∧
      s.unblock.unfinished = s.unfinished := by
  unfold unblock
  split
  · split <;> exact ⟨rfl, rfl, rfl⟩
  · exact ⟨rfl, rfl, rfl⟩

theorem takeLines_frame (s : StreamSource) (lines : List (List UInt8)) :
    (s.takeLines lines).ending = s.ending ∧ (s.takeLines lines).unfinished = s.unfinished := by
  induction lines generalizing s with
  | nil => exact ⟨rfl, rfl⟩
  | cons line rest ih =>
      unfold takeLines
      split
      · exact ⟨rfl, rfl⟩
      · rename_i goes
        have free : s.blocked = none := by simp at goes; exact goes.2
        have takes := takes_takeLine free line
        exact ⟨(ih _).1.trans takes.ending, (ih _).2.trans takes.unfinished⟩

theorem finish_frame (s : StreamSource) :
    s.finish.ending = s.ending ∧ s.finish.unfinished = s.unfinished := by
  unfold finish
  split
  · exact ⟨rfl, rfl⟩
  · split <;> exact ⟨rfl, rfl⟩

theorem work_frame (s : StreamSource) :
    s.work.ending = s.ending ∧ s.work.unfinished = s.unfinished := by
  have first := unblock_frame s
  have second := takeLines_frame s.unblock s.unblock.unread
  have third := finish_frame (s.unblock.takeLines s.unblock.unread)
  exact ⟨third.1.trans (second.1.trans first.2.1), third.2.trans (second.2.trans first.2.2)⟩

theorem Accounts.work (h : Accounts polled s read s.unread)
    (size : s.buffer.length ≤ streamCapacity) :
    exists more, s.unread = more ++ s.work.unread ∧
      Accounts polled s.work (read ++ more) s.work.unread ∧ s.work.Waits := by
  obtain ⟨account, fits⟩ := h.unblock size
  rw [← (unblock_frame s).1] at account
  obtain ⟨more, split, account, waits⟩ := account.takeLines fits
  obtain ⟨account, waits⟩ := account.finish waits
  have unread : (s.unblock.takeLines s.unblock.unread).finish.unread =
      (s.unblock.takeLines s.unblock.unread).unread := by
    unfold StreamSource.finish
    split
    · rfl
    · split <;> rfl
  refine ⟨more, ?_, account, waits⟩
  rw [← (unblock_frame s).1]
  exact split.trans (congrArg (more ++ ·) unread.symm)

end

end StreamSource
end RobotConsole
