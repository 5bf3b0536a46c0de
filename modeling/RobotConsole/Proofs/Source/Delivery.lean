import Mathlib.Data.List.Induction
import RobotConsole.Proofs.Source.Stream

/-!
# What a stream delivers

The events of a stream are a function of the bytes that were fed to it and of how they ended.
The pieces in which the bytes come make no difference, nor do the times of the polls.
-/

namespace RobotConsole

inductive StreamMove where
  | feed (bytes : List UInt8)
  | close
  | fail (message : String)
  | poll

namespace StreamMove

def fed : List StreamMove -> List UInt8
  | [] => []
  | feed bytes :: later => bytes ++ fed later
  | poll :: later => fed later
  | close :: _ => []
  | fail _ :: _ => []

def ended : List StreamMove -> StreamEnd
  | [] => .ahead
  | close :: _ => .closed
  | fail message :: _ => .failed message
  | _ :: later => ended later

end StreamMove

/-- A stream and the events that were polled from it. -/
structure StreamRun where
  source : StreamSource
  polled : List TransportEvent := []

namespace StreamRun

/-- After every move the reader works until it waits. -/
def step (run : StreamRun) : StreamMove -> StreamRun
  | .feed bytes => { run with source := (run.source.feed bytes).work }
  | .close => { run with source := run.source.close.work }
  | .fail message => { run with source := (run.source.fail message).work }
  | .poll => ⟨run.source.poll.2.work, run.polled ++ run.source.poll.1.toList⟩

def play (label : String) (moves : List StreamMove) : StreamRun :=
  moves.foldl step { source := { label } }

end StreamRun

namespace StreamMove

theorem ended_append (moves later : List StreamMove) :
    ended (moves ++ later) = if ended moves = .ahead then ended later else ended moves := by
  induction moves with
  | nil => rfl
  | cons move moves ih =>
      cases move with
      | feed bytes => exact ih
      | close => rfl
      | fail message => rfl
      | poll => exact ih

theorem fed_append (moves later : List StreamMove) :
    fed (moves ++ later) = fed moves ++ if ended moves = .ahead then fed later else [] := by
  induction moves with
  | nil => rfl
  | cons move moves ih =>
      cases move with
      | feed bytes =>
          show bytes ++ fed (moves ++ later) = bytes ++ fed moves ++ _
          rw [ih, List.append_assoc]
          rfl
      | close => rfl
      | fail message => rfl
      | poll => exact ih

theorem fed_append_polls (moves : List StreamMove) (n : Nat) :
    fed (moves ++ List.replicate n poll) = fed moves := by
  have none : fed (List.replicate n poll) = [] := by
    induction n with
    | zero => rfl
    | succ n ih => exact ih
  rw [fed_append, none, ite_self, List.append_nil]

theorem ended_append_polls (moves : List StreamMove) (n : Nat) :
    ended (moves ++ List.replicate n poll) = ended moves := by
  have ahead : ended (List.replicate n poll) = .ahead := by
    induction n with
    | zero => rfl
    | succ n ih => exact ih
  rw [ended_append, ahead]
  split
  · rename_i open'
    exact open'.symm
  · rfl

end StreamMove

namespace StreamSource

/-! ## Lines from pieces -/

theorem handed_append (bytes more : List UInt8) :
    handed (bytes ++ more) .ahead = handed bytes .ahead ++
      ((Text.lastPiece lineFeed bytes ++ more).splitOn lineFeed).dropLast.map (· ++ [lineFeed]) := by
  unfold handed
  rw [Text.splitOn_append, List.dropLast_append_of_ne_nil (List.splitOn_ne_nil _ _)]
  simp

theorem lastPiece_append (bytes more : List UInt8) :
    Text.lastPiece lineFeed (bytes ++ more) =
      Text.lastPiece lineFeed (Text.lastPiece lineFeed bytes ++ more) := by
  obtain ⟨pieces, piece, split⟩ := (List.eq_nil_or_concat
    ((Text.lastPiece lineFeed bytes ++ more).splitOn lineFeed)).resolve_left
      (List.splitOn_ne_nil _ _)
  unfold Text.lastPiece at split ⊢
  rw [Text.splitOn_append]
  unfold Text.lastPiece
  rw [split]
  simp

/-! ## What one move preserves -/

/-- The state of a stream of which so much is polled, after these bytes have arrived. -/
structure Delivers (polled : List TransportEvent) (s : StreamSource) (bytes : List UInt8)
    (ending : StreamEnd) : Prop where
  ends : s.ending = ending
  unfinished : ending = .ahead -> s.unfinished = Text.lastPiece lineFeed bytes
  account : exists read, handed bytes ending = read ++ s.unread ∧ Accounts polled s read s.unread
  size : s.buffer.length ≤ streamCapacity

section

variable {polled : List TransportEvent} {s : StreamSource} {bytes : List UInt8}
  {ending : StreamEnd}

theorem delivers_start (label : String) : Delivers [] { label } [] .ahead := by
  constructor
  · rfl
  · intro _
    rfl
  · exact ⟨[], rfl, rfl, fun _ => readable_nil, nofun⟩
  · exact Nat.zero_le _

/-- As long as more may come, a reader that has stopped has met a line that is no text; so it
does not matter to the account what arrives. -/
theorem Accounts.arrive {t : StreamSource} {read unread : List (List UInt8)}
    (h : Accounts polled s read unread) (ahead : s.ending = .ahead) (buffer : t.buffer = s.buffer)
    (blocked : t.blocked = s.blocked) (reading : t.reading = s.reading)
    (unread' : List (List UInt8)) : Accounts polled t read unread' := by
  constructor
  · rw [buffer, blocked]
    exact h.events
  · rw [reading]
    exact h.going
  · intro halted readable
    exact absurd ahead (h.stopped (reading ▸ halted) readable).1

theorem Delivers.feed (h : Delivers polled s bytes .ahead) (more : List UInt8) :
    Delivers polled (s.feed more) (bytes ++ more) .ahead := by
  obtain ⟨read, split, account⟩ := h.account
  unfold StreamSource.feed
  rw [if_pos h.ends, h.unfinished rfl, Text.splitAll_eq_splitOn]
  constructor
  · exact h.ends
  · intro _
    exact (lastPiece_append bytes more).symm
  · refine ⟨read, ?_, ?_⟩
    · rw [handed_append, split, List.append_assoc]
    · apply account.arrive h.ends <;> rfl
  · exact h.size

theorem Delivers.close (h : Delivers polled s bytes .ahead) :
    Delivers polled s.close bytes .closed := by
  obtain ⟨read, split, account⟩ := h.account
  unfold StreamSource.close
  rw [if_pos h.ends, h.unfinished rfl]
  constructor
  · rfl
  · nofun
  · refine ⟨read, ?_, ?_⟩
    · unfold handed at split ⊢
      rw [if_neg (by simp), List.append_nil] at split
      by_cases empty : Text.lastPiece lineFeed bytes = []
      · simp [split, empty]
      · simp [split, empty]
    · apply account.arrive h.ends <;> rfl
  · exact h.size

theorem Delivers.fail (h : Delivers polled s bytes .ahead) (message : String) :
    Delivers polled (s.fail message) bytes (.failed message) := by
  obtain ⟨read, split, account⟩ := h.account
  unfold StreamSource.fail
  rw [if_pos h.ends]
  constructor
  · rfl
  · nofun
  · refine ⟨read, split, ?_⟩
    apply account.arrive h.ends <;> rfl
  · exact h.size

theorem feed_of_past (past : s.ending ≠ .ahead) (more : List UInt8) : s.feed more = s :=
  if_neg past

theorem close_of_past (past : s.ending ≠ .ahead) : s.close = s :=
  if_neg past

theorem fail_of_past (past : s.ending ≠ .ahead) (message : String) : s.fail message = s :=
  if_neg past

theorem Delivers.poll (h : Delivers polled s bytes ending) :
    Delivers (polled ++ s.poll.1.toList) s.poll.2 bytes ending := by
  obtain ⟨read, split, account⟩ := h.account
  unfold StreamSource.poll
  split
  · rename_i event rest ready
    constructor
    · exact h.ends
    · exact h.unfinished
    · refine ⟨read, split, ?_, account.going, account.stopped⟩
      rw [← account.events, ready]
      simp
    · have size := h.size
      rw [ready] at size
      exact Nat.le_of_succ_le size
  · split
    · rw [Option.toList_none, List.append_nil]
      exact h
    · rw [Option.toList_none, List.append_nil]
      constructor
      · exact h.ends
      · exact h.unfinished
      · exact ⟨read, split, account.events, account.going, account.stopped⟩
      · exact h.size

theorem Delivers.work (h : Delivers polled s bytes ending) :
    Delivers polled s.work bytes ending ∧ s.work.Waits := by
  obtain ⟨read, split, account⟩ := h.account
  obtain ⟨more, unread, account, waits⟩ := account.work h.size
  obtain ⟨ends, unfinished⟩ := work_frame s
  refine ⟨⟨ends.trans h.ends, ?_, ⟨read ++ more, ?_, account⟩, waits.size⟩, waits⟩
  · intro ahead
    rw [unfinished, h.unfinished ahead]
  · rw [split, unread, List.append_assoc]

theorem Delivers.events (h : Delivers polled s bytes ending) (waits : s.Waits) :
    polled ++ s.buffer <+: eventsOf (linesOf bytes ending) ∧
      (s.buffer = [] -> polled = eventsOf (linesOf bytes ending)) := by
  obtain ⟨read, split, account⟩ := h.account
  rw [← eventsOf_handed, split]
  constructor
  · have done : polled ++ s.buffer <+: eventsOf read := by
      rw [← account.events]
      exact List.prefix_append _ _
    exact done.trans (eventsOf_prefix_append read s.unread)
  · intro empty
    have free := waits.free empty
    have polls := account.events
    rw [empty, free, List.append_nil, Option.toList_none, List.append_nil] at polls
    rw [polls]
    by_cases readable : Readable read
    · have rest : s.unread = [] := by
        cases reading : s.reading with
        | true => exact waits.unread reading free
        | false => exact (account.stopped reading readable).2
      rw [rest, List.append_nil]
    · exact (eventsOf_append_of_not_readable readable s.unread).symm

end

end StreamSource

/-! ## Runs -/

namespace StreamRun

open StreamMove StreamSource

theorem play_concat (label : String) (moves : List StreamMove) (move : StreamMove) :
    play label (moves ++ [move]) = (play label moves).step move := by
  unfold play
  rw [List.foldl_append]
  rfl

/-- The induction is on the moves, the last one first: an end makes all that follow it void. -/
theorem delivers_play (label : String) (moves : List StreamMove) :
    Delivers (play label moves).polled (play label moves).source (fed moves) (ended moves) ∧
      (play label moves).source.Waits := by
  induction moves using List.reverseRecOn with
  | nil => exact ⟨delivers_start label, ⟨Nat.zero_le _, nofun⟩, fun _ _ => rfl⟩
  | append_singleton moves move ih =>
      have delivers := ih.1
      rw [play_concat, fed_append, ended_append]
      by_cases ahead : ended moves = .ahead
      · rw [ahead] at delivers
        rw [if_pos ahead, if_pos ahead]
        cases move with
        | feed bytes =>
            show Delivers _ _ (_ ++ (bytes ++ [])) _ ∧ _
            rw [List.append_nil]
            exact (delivers.feed bytes).work
        | close =>
            show Delivers _ _ (_ ++ []) _ ∧ _
            rw [List.append_nil]
            exact delivers.close.work
        | fail message =>
            show Delivers _ _ (_ ++ []) _ ∧ _
            rw [List.append_nil]
            exact (delivers.fail message).work
        | poll =>
            show Delivers _ _ (_ ++ []) _ ∧ _
            rw [List.append_nil]
            exact delivers.poll.work
      · have past : (play label moves).source.ending ≠ .ahead := delivers.ends ▸ ahead
        rw [if_neg ahead, if_neg ahead, List.append_nil]
        cases move with
        | feed bytes =>
            simp only [step, feed_of_past past]
            exact delivers.work
        | close =>
            simp only [step, close_of_past past]
            exact delivers.work
        | fail message =>
            simp only [step, fail_of_past past]
            exact delivers.work
        | poll => exact delivers.poll.work

theorem poll_play (label : String) (moves : List StreamMove) :
    (play label moves).source.poll.1 =
      (eventsOf (linesOf (fed moves) (ended moves)))[(play label moves).polled.length]? := by
  obtain ⟨delivers, waits⟩ := delivers_play label moves
  obtain ⟨begins, all⟩ := delivers.events waits
  unfold StreamSource.poll
  split
  · rename_i event rest ready
    rw [ready] at begins
    obtain ⟨more, whole⟩ := begins
    rw [← whole, List.append_assoc]
    simp
  · rename_i empty
    rw [← all empty, List.getElem?_eq_none (Nat.le_refl _)]
    split <;> rfl

theorem polled_begins (label : String) (moves : List StreamMove) :
    (play label moves).polled <+: eventsOf (linesOf (fed moves) (ended moves)) := by
  obtain ⟨delivers, waits⟩ := delivers_play label moves
  exact (List.prefix_append _ _).trans (delivers.events waits).1

theorem polled_of_drained (label : String) (moves : List StreamMove)
    (drained : (play label moves).source.poll.1 = none) :
    (play label moves).polled = eventsOf (linesOf (fed moves) (ended moves)) := by
  apply (polled_begins label moves).eq_of_length_le
  rw [poll_play] at drained
  exact List.getElem?_eq_none_iff.1 drained

theorem polled_append_polls (label : String) (moves : List StreamMove) (n : Nat) :
    (play label (moves ++ List.replicate n .poll)).polled =
      (eventsOf (linesOf (fed moves) (ended moves))).take ((play label moves).polled.length + n) := by
  induction n with
  | zero =>
      rw [List.replicate_zero, List.append_nil, Nat.add_zero]
      exact List.prefix_iff_eq_take.1 (polled_begins label moves)
  | succ n ih =>
      rw [List.replicate_succ', ← List.append_assoc, play_concat]
      show _ ++ Option.toList _ = _
      rw [poll_play, fed_append_polls, ended_append_polls, ih, List.length_take,
        ← Nat.add_assoc, List.take_add_one]
      rcases Nat.le_total ((play label moves).polled.length + n)
        (eventsOf (linesOf (fed moves) (ended moves))).length with some | all
      · rw [Nat.min_eq_left some]
      · rw [Nat.min_eq_right all, List.getElem?_eq_none (Nat.le_refl _), List.getElem?_eq_none all]

/-- Every event that the bytes hold is delivered once, in order: whatever pieces the bytes come
in and whenever it is polled, a stream has delivered some of the first events, as many more
polls deliver that many more, and a poll that finds nothing comes when all are delivered. -/
theorem delivers_events_of_bytes (label : String) (moves : List StreamMove) (n : Nat) :
    let run := play label moves
    let events := eventsOf (linesOf (fed moves) (ended moves))
    run.polled <+: events ∧ (run.source.poll.1 = none -> run.polled = events) ∧
      (play label (moves ++ List.replicate n .poll)).polled =
        events.take (run.polled.length + n) :=
  ⟨polled_begins label moves, polled_of_drained label moves, polled_append_polls label moves n⟩

end StreamRun
end RobotConsole
