import RobotConsole.Proofs.Link.Run
import RobotConsole.Proofs.Numeric.Seconds

/-!
# Silence

When a link is down after a while in which no telemetry came.
-/

namespace RobotConsole
namespace Link

open LinkChange

/-- No telemetry comes in a run that ends with a tick at a given time, the ticks do not go back in
time, and from the first to the last of them it is at least so long. -/
structure Silent (timeout : Duration) (changes : List LinkChange) (now : Int) : Prop where
  noArrival : changes.filterMap arrival? = []
  ordered : (changes.filterMap tick? ++ [now]).Pairwise (· ≤ ·)
  long : exists start, (changes.filterMap tick? ++ [now]).head? = some start ∧
    (timeout.nanos : Int) ≤ 1000000 * (now - start)

/-- What is wanted of a link after a silence. -/
def Quiet {α : Type} (link : Link α) : Prop :=
  link.status = .disconnected ∧ link.mode = .idle ∧ link.errorFlag = false

theorem Sound.quiet_iff {α : Type} {link : Link α} (sound : link.Sound) :
    link.Quiet ↔ link.status = .disconnected := by
  constructor
  · exact fun quiet => quiet.1
  · exact fun down => ⟨down, sound.quiet down⟩

theorem tick_quiet_iff {α : Type} [RateScalar α] {link : Link α} (sound : link.Sound) (now : Int) :
    (link.tick now).Quiet ↔
      RateScalar.less (link.silence now) (RateScalar.seconds link.disconnectTimeout : α) = false := by
  rw [(sound.tick now).quiet_iff]
  unfold tick
  dsimp only
  split
  · rename_i young
    rw [young]
    dsimp only
    split <;> simp
  · rename_i old
    simpa using old

/-- A tick leaves a link down exactly if, in doubles, the newest telemetry is as old as the
timeout by its own stamp. -/
theorem quiet_play_iff (settings : HealthSettings) (changes : List LinkChange) (now : Int) :
    (play settings (changes ++ [.tick now]) : Link Float).Quiet ↔
      forall stamp, (changes.filterMap arrival?).getLast? = some stamp ->
        ¬ secondsBetween stamp now < settings.disconnectTimeout.toFloat := by
  have latest := latest?_play (α := Float) settings changes
  rw [play_concat]
  show (Link.tick _ _).Quiet ↔ _
  rw [tick_quiet_iff (sound_play settings _), disconnectTimeout_play]
  unfold silence
  rw [latest, disconnectTimeout_play]
  cases (changes.filterMap arrival?).getLast? with
  | none =>
      show decide (_ < _) = false ↔ _
      simp [Numeric.not_lt_self]
  | some stamp =>
      show decide (_ < _) = false ↔ _
      simp
      rfl

/-! ## Exact times -/

theorem secondsBetween_of_near {start finish : Int} (low : -2 ^ 53 < finish - start)
    (high : finish - start < 2 ^ 53) :
    (secondsBetween start finish : Float) = Float.ofInt (finish - start) / 1000.0 := by
  have kept : Numeric.wrapInt64 (finish - start) = finish - start :=
    Numeric.wrapInt64_of_fits (Numeric.fitsInt64_iff.2 ⟨by omega, by omega⟩)
  show Float.ofInt (Numeric.wrapInt64 (finish - start)) / 1000.0 = _
  rw [kept]

/-- Where rounding makes no difference, the newest telemetry is compared with the timeout exactly. -/
theorem quiet_play_iff_of_comparable {settings : HealthSettings} {changes : List LinkChange}
    {now stamp : Int} (newest : (changes.filterMap arrival?).getLast? = some stamp)
    (comparable : settings.disconnectTimeout.Comparable (now - stamp)) :
    (play settings (changes ++ [.tick now]) : Link Float).Quiet ↔
      settings.disconnectTimeout.nanos ≤ 1000000 * (now - stamp) := by
  have exact : (secondsBetween stamp now : Float) < settings.disconnectTimeout.toFloat ↔
      1000000 * (now - stamp) < settings.disconnectTimeout.nanos := by
    rw [secondsBetween_of_near comparable.low comparable.high]
    exact comparable.lt_iff
  rw [quiet_play_iff, newest]
  constructor
  · intro old
    exact Int.not_lt.1 fun young => old stamp rfl (exact.2 young)
  · rintro old other ⟨⟩ young
    exact Int.not_lt.2 old (exact.1 young)

theorem quiet_play_iff_of_seconds {settings : HealthSettings} {changes : List LinkChange}
    {now stamp : Int} {s : Nat} (timeout : settings.disconnectTimeout = .ofSeconds s)
    (short : s < 2 ^ 43) (newest : (changes.filterMap arrival?).getLast? = some stamp)
    (low : -2 ^ 53 < now - stamp) (high : now - stamp < 2 ^ 53) :
    (play settings (changes ++ [.tick now]) : Link Float).Quiet ↔ 1000 * s ≤ now - stamp := by
  have nanos : (Duration.ofSeconds s).nanos = 1000000000 * s := rfl
  rw [quiet_play_iff_of_comparable newest (timeout ▸ .ofSeconds low high short), timeout,
    nanos]
  omega

/-! ## Silences -/

theorem Silent.filterMap_arrival? {timeout : Duration} {changes : List LinkChange} {now : Int}
    (silent : Silent timeout changes now) (before : List LinkChange) :
    (before ++ changes).filterMap arrival? = before.filterMap arrival? := by
  rw [List.filterMap_append, silent.noArrival, List.append_nil]

/-- After a silence a link is down exactly if, in doubles, its newest telemetry is as old as the
timeout by its own stamp, with the difference that 64 bits have. With a timeout of whole seconds
that is the exact order. -/
theorem quiet_after_silence_iff (settings : HealthSettings) (before changes : List LinkChange)
    (now : Int) (silent : Silent settings.disconnectTimeout changes now) :
    ((play settings (before ++ changes ++ [.tick now]) : Link Float).Quiet ↔
      forall stamp, (before.filterMap arrival?).getLast? = some stamp ->
        ¬ secondsBetween stamp now < settings.disconnectTimeout.toFloat) ∧
    forall (s : Nat) (stamp : Int), settings.disconnectTimeout = .ofSeconds s -> s < 2 ^ 43 ->
      (before.filterMap arrival?).getLast? = some stamp ->
        -2 ^ 53 < now - stamp -> now - stamp < 2 ^ 53 ->
          ((play settings (before ++ changes ++ [.tick now]) : Link Float).Quiet ↔
            1000 * s ≤ now - stamp) := by
  rw [← silent.filterMap_arrival? before]
  refine ⟨quiet_play_iff settings (before ++ changes) now, ?_⟩
  intro s stamp timeout short newest low high
  exact quiet_play_iff_of_seconds timeout short newest low high

/-- Telemetry by the clock of the ticks, and then as long a silence as the timeout. -/
theorem quiet_after_silence_of_one_clock :
    Silent ({} : HealthSettings).disconnectTimeout [.tick 0, .mode .teleop, .tick 5000] 8000 ∧
      (play {} ([.tick (-500), .arrival 0] ++ [.tick 0, .mode .teleop, .tick 5000] ++
        [.tick 8000]) : Link Float).Quiet := by
  have silent : Silent ({} : HealthSettings).disconnectTimeout
      [.tick 0, .mode .teleop, .tick 5000] 8000 :=
    ⟨by decide, by decide, 0, by decide, by decide⟩
  have law := (quiet_after_silence_iff {} [.tick (-500), .arrival 0]
    [.tick 0, .mode .teleop, .tick 5000] 8000 silent).2
  exact ⟨silent, (law 8 0 rfl (by decide) rfl (by decide) (by decide)).2 (by decide)⟩

/-- Telemetry that is stamped ahead of the ticks keeps the link up. -/
theorem not_quiet_after_silence :
    ¬ forall (settings : HealthSettings) (before changes : List LinkChange) (now : Int),
      Silent settings.disconnectTimeout changes now ->
        (play settings (before ++ changes ++ [.tick now]) : Link Float).Quiet := by
  intro law
  have quiet := law {} [.arrival 10000]
    [.tick 0, .mode .teleop, .log { timestamp := 0, level := .error, message := "" }] 8000
    ⟨by decide, by decide, 0, by decide, by decide⟩
  have up : (play {} ([.arrival 10000] ++
    [.tick 0, .mode .teleop, .log { timestamp := 0, level := .error, message := "" }] ++
      [.tick 8000]) : Link Float).mode = .teleop := by decide +kernel
  exact absurd (quiet.2.1.symm.trans up) (by decide)

end Link
end RobotConsole
