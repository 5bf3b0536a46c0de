import Mathlib.Algebra.Order.Field.Rat
import Mathlib.Tactic.GCongr
import Mathlib.Tactic.Linarith
import Mathlib.Tactic.NormNum
import Mathlib.Tactic.Positivity
import Mathlib.Tactic.Ring
import RobotConsole.Proofs.Link.Run

/-!
# Rates in exact numbers

The estimator on rationals. Half of the smoothed rate is kept by a tick, and the other half comes
from the arrivals; so whatever the estimate was, each tick over a window that is as busy as expected
halves what it lacks.
-/

namespace RobotConsole
namespace Link

open LinkChange

/-- The arrivals that are expected in a second. An interval of zero counts as the least one that is
divided by. -/
def expectedPerSecond (settings : HealthSettings) : Rat :=
  1 / max ((settings.expectedInterval.nanos : Rat) / 1000000000) (1 / 2 ^ 52)

/-- The rate seen over the arrivals that are kept, in a window from the first of them on. -/
def windowRate (link : Link Rat) (first now : Int) : Rat :=
  link.arrivals.size / (((now - first : Int) : Rat) / 1000)

/-- A time at which the arrivals that are kept come as fast as expected, the last of them before the
timeout. -/
structure Busy (settings : HealthSettings) (link : Link Rat) (now : Int) : Prop where
  window : exists first, first ∈ link.arrivals.oldest? ∧ first < now ∧
    expectedPerSecond settings ≤ link.windowRate first now
  young : exists last, last ∈ link.arrivals.latest? ∧
    1000000 * (now - last) < settings.disconnectTimeout.nanos

instance (settings : HealthSettings) (link : Link Rat) (now : Int) :
    Decidable (Busy settings link now) :=
  decidable_of_iff
    ((exists first, first ∈ link.arrivals.oldest? ∧ first < now ∧
      expectedPerSecond settings ≤ link.windowRate first now) ∧
      exists last, last ∈ link.arrivals.latest? ∧
        1000000 * (now - last) < settings.disconnectTimeout.nanos)
    ⟨fun both => ⟨both.1, both.2⟩, fun busy => ⟨busy.window, busy.young⟩⟩

def BusyTicks (settings : HealthSettings) (link : Link Rat) : List LinkChange -> Prop
  | [] => True
  | .tick now :: rest => Busy settings link now ∧ BusyTicks settings (link.tick now) rest
  | c :: rest => BusyTicks settings (link.change c) rest

instance decidableBusyTicks (settings : HealthSettings) (link : Link Rat) :
    (changes : List LinkChange) -> Decidable (BusyTicks settings link changes)
  | [] => inferInstanceAs (Decidable True)
  | .tick now :: rest =>
      have := decidableBusyTicks settings (link.tick now) rest
      inferInstanceAs (Decidable (Busy settings link now ∧ _))
  | .arrival timestamp :: rest => decidableBusyTicks settings (link.recordArrival timestamp) rest
  | .log event :: rest => decidableBusyTicks settings (link.noteLog event) rest
  | .mode requested :: rest => decidableBusyTicks settings (link.applyMode requested) rest
  | .alliance alliance :: rest => decidableBusyTicks settings (link.setAlliance alliance) rest

section

variable {settings : HealthSettings} {link : Link Rat}

theorem expectedPerSecond_pos (settings : HealthSettings) : 0 < expectedPerSecond settings := by
  unfold expectedPerSecond
  have least : (0 : Rat) < 1 / 2 ^ 52 := by positivity
  exact one_div_pos.2 (least.trans_le (le_max_right _ _))

theorem expectedRate_eq (interval : link.expectedInterval = settings.expectedInterval) :
    link.expectedRate = expectedPerSecond settings := by
  have seconds : (RateScalar.seconds link.expectedInterval : Rat) =
      settings.expectedInterval.nanos / 1000000000 := by
    rw [interval]
    rfl
  have tiny : (RateScalar.tiny : Rat) = 1 / 2 ^ 52 := by
    show (1 / 4503599627370496 : Rat) = _
    norm_num
  have longer (a b : Rat) : (if RateScalar.less a b then b else a) = max a b := by
    show (if decide (a < b) = true then b else a) = _
    simp only [decide_eq_true_eq]
    exact (max_def_lt a b).symm
  unfold expectedRate expectedPerSecond
  dsimp only
  rw [longer, seconds, tiny]
  show (1.0 : Rat) / _ = _
  norm_num

/-! ## One tick -/

theorem secondsBetween_eq (start finish : Int) :
    (secondsBetween start finish : Rat) = (finish - start : Int) / 1000 := by
  show ((finish - start : Int) : Rat) / (1000.0 : Rat) = _
  norm_num

theorem nextRate_of_window {first now : Int} (oldest : link.arrivals.oldest? = some first)
    (later : first < now) :
    link.nextRate now = link.smoothedRate / 2 + link.windowRate first now / 2 := by
  have positive : (0 : Rat) < (now - first : Int) / 1000 := by
    have : (0 : Rat) < (now - first : Int) := by exact_mod_cast Int.sub_pos.2 later
    positivity
  have open' : RateScalar.less (0.0 : Rat) (secondsBetween first now) = true := by
    rw [secondsBetween_eq]
    show decide ((0.0 : Rat) < _) = true
    norm_num at positive ⊢
    exact positive
  unfold nextRate
  rw [oldest]
  dsimp only
  rw [if_pos open', secondsBetween_eq]
  show link.smoothedRate * (0.5 : Rat) + (0.5 : Rat) * ((link.arrivals.size : Int) : Rat) / _ = _
  unfold windowRate
  push_cast
  ring

theorem half_le_nextRate (link : Link Rat) (now : Int) :
    link.smoothedRate / 2 ≤ link.nextRate now := by
  have kept : link.smoothedRate * (decay : Rat) = link.smoothedRate / 2 := by
    show link.smoothedRate * (0.5 : Rat) = _
    ring
  unfold nextRate
  dsimp only
  cases oldest : link.arrivals.oldest? with
  | none => exact kept.ge
  | some first =>
      dsimp only
      split
      · rename_i positive
        have positive : (0.0 : Rat) < secondsBetween first now := of_decide_eq_true positive
        rw [kept]
        apply le_add_of_nonneg_right
        show (0 : Rat) ≤ (0.5 : Rat) * ((link.arrivals.size : Int) : Rat) / _
        norm_num at positive
        positivity
      · exact kept.ge

theorem relativeTo_eq (interval : link.expectedInterval = settings.expectedInterval) {rate : Rat}
    (nonneg : 0 ≤ rate) : link.relativeTo rate = min (rate / expectedPerSecond settings) 1 := by
  have positive := expectedPerSecond_pos settings
  have least : (0 : Rat) ≤ rate / expectedPerSecond settings := by positivity
  unfold relativeTo
  dsimp only
  rw [expectedRate_eq interval]
  show clampUnit (rate / expectedPerSecond settings) = _
  generalize rate / expectedPerSecond settings = part at least
  show (if decide (part < (0.0 : Rat)) = true then (0.0 : Rat)
    else if decide ((1.0 : Rat) < part) = true then (1.0 : Rat) else part) = _
  norm_num
  rw [if_neg (not_lt.2 least), min_comm, min_def_lt]

theorem silence_lt {now last : Int} (latest : link.arrivals.latest? = some last)
    (timeout : link.disconnectTimeout = settings.disconnectTimeout)
    (young : 1000000 * (now - last) < settings.disconnectTimeout.nanos) :
    RateScalar.less (link.silence now) (RateScalar.seconds link.disconnectTimeout : Rat) =
      true := by
  have younger : (1000000 : Rat) * (now - last : Int) < settings.disconnectTimeout.nanos := by
    exact_mod_cast young
  unfold silence
  rw [latest, timeout]
  dsimp only
  rw [secondsBetween_eq]
  show decide (_ < (settings.disconnectTimeout.nanos : Rat) / 1000000000) = true
  rw [decide_eq_true_eq]
  linarith

/-! ## Ticks in a row -/

/-- What is known of a link after so many ticks that found it busy. -/
structure Warm (settings : HealthSettings) (link : Link Rat) (ticks : Nat) : Prop where
  interval : link.expectedInterval = settings.expectedInterval
  timeout : link.disconnectTimeout = settings.disconnectTimeout
  smoothed : (1 - (1 / 2) ^ ticks) * expectedPerSecond settings ≤ link.smoothedRate
  relative : 1 - (1 / 2) ^ ticks ≤ link.relativeRate
  status : 4 ≤ ticks -> link.status = .healthy

theorem le_relativeTo (interval : link.expectedInterval = settings.expectedInterval)
    {part rate : Rat} (nonneg : 0 ≤ rate) (least : part ≤ 1)
    (reached : part * expectedPerSecond settings ≤ rate) : part ≤ link.relativeTo rate := by
  rw [relativeTo_eq interval nonneg]
  exact le_min ((le_div_iff₀ (expectedPerSecond_pos settings)).2 reached) least

theorem lack_nonneg (ticks : Nat) :
    (0 : Rat) ≤ 1 - (1 / 2) ^ ticks ∧ (1 : Rat) - (1 / 2) ^ ticks ≤ 1 := by
  have upper : ((1 / 2 : Rat)) ^ ticks ≤ 1 := pow_le_one₀ (by norm_num) (by norm_num)
  have lower : (0 : Rat) ≤ (1 / 2) ^ ticks := by positivity
  constructor <;> linarith

theorem healthyRatio_lt {ticks : Nat} (enough : 4 ≤ ticks) {rate : Rat}
    (reached : 1 - (1 / 2) ^ ticks ≤ rate) : RateScalar.less (healthyRatio : Rat) rate = true := by
  have lack : ((1 / 2 : Rat)) ^ ticks ≤ (1 / 2) ^ 4 :=
    pow_le_pow_of_le_one (by norm_num) (by norm_num) enough
  show decide ((0.9 : Rat) < rate) = true
  rw [decide_eq_true_eq]
  norm_num at lack ⊢
  linarith

theorem tick_rates (link : Link Rat) (now : Int) :
    (link.tick now).smoothedRate = link.nextRate now ∧
      (link.tick now).relativeRate = link.relativeTo (link.nextRate now) := by
  unfold Link.tick
  dsimp only
  split <;> exact ⟨rfl, rfl⟩

theorem Warm.tick {ticks : Nat} (warm : Warm settings link ticks) {now : Int}
    (busy : Busy settings link now) : Warm settings (link.tick now) (ticks + 1) := by
  obtain ⟨first, oldest, later, fast⟩ := busy.window
  obtain ⟨last, latest, young⟩ := busy.young
  obtain ⟨none, all⟩ := lack_nonneg (ticks + 1)
  have positive := expectedPerSecond_pos settings
  -- The estimate lacks half of what it lacked before.
  have smoothed : (1 - (1 / 2) ^ (ticks + 1)) * expectedPerSecond settings ≤ link.nextRate now := by
    rw [nextRate_of_window oldest later, pow_succ]
    linarith [warm.smoothed]
  have relative : 1 - (1 / 2) ^ (ticks + 1) ≤ link.relativeTo (link.nextRate now) :=
    le_relativeTo warm.interval ((mul_nonneg none positive.le).trans smoothed) all smoothed
  have rates := link.tick_rates now
  rw [← rates.1] at smoothed
  rw [← rates.2] at relative
  refine ⟨?_, ?_, smoothed, relative, ?_⟩
  · exact (link.tick_frame now).2.2.trans warm.interval
  · exact (link.tick_frame now).2.1.trans warm.timeout
  · intro enough
    rw [rates.2] at relative
    unfold Link.tick
    dsimp only
    rw [if_pos (silence_lt latest warm.timeout young), if_pos (healthyRatio_lt enough relative)]

theorem Warm.tick_cold (warm : Warm settings link 0) (now : Int) :
    Warm settings (link.tick now) 0 := by
  have rates := link.tick_rates now
  have before := warm.smoothed
  rw [pow_zero, sub_self, zero_mul] at before
  have smoothed : 0 ≤ link.nextRate now :=
    (div_nonneg before zero_le_two).trans (half_le_nextRate link now)
  refine ⟨?_, ?_, ?_, ?_, nofun⟩
  · exact (link.tick_frame now).2.2.trans warm.interval
  · exact (link.tick_frame now).2.1.trans warm.timeout
  · rw [rates.1, pow_zero, sub_self, zero_mul]
    exact smoothed
  · rw [rates.2, pow_zero, sub_self]
    apply le_relativeTo warm.interval smoothed zero_le_one
    rw [zero_mul]
    exact smoothed

theorem change_of_no_tick (link : Link Rat) {c : LinkChange} (other : c.tick? = none) :
    (link.change c).smoothedRate = link.smoothedRate ∧
      (link.change c).relativeRate = link.relativeRate ∧
      (link.change c).status = link.status := by
  cases c with
  | arrival timestamp => exact ⟨rfl, rfl, rfl⟩
  | tick now => cases other
  | log event =>
      simp only [change, noteLog]
      split <;> exact ⟨rfl, rfl, rfl⟩
  | mode requested =>
      simp only [change, applyMode]
      split
      · exact ⟨rfl, rfl, rfl⟩
      · cases requested <;> exact ⟨rfl, rfl, rfl⟩
  | alliance alliance => exact ⟨rfl, rfl, rfl⟩

theorem Warm.change {ticks : Nat} (warm : Warm settings link ticks) {c : LinkChange}
    (other : c.tick? = none) : Warm settings (link.change c) ticks := by
  obtain ⟨smoothed, relative, status⟩ := change_of_no_tick link other
  refine ⟨?_, ?_, ?_, ?_, ?_⟩
  · rw [change_expectedInterval]
    exact warm.interval
  · rw [change_disconnectTimeout]
    exact warm.timeout
  · rw [smoothed]
    exact warm.smoothed
  · rw [relative]
    exact warm.relative
  · rw [status]
    exact warm.status

theorem Warm.run {ticks : Nat} (warm : Warm settings link ticks) {changes : List LinkChange}
    (busy : BusyTicks settings link changes) :
    Warm settings (changes.foldl Link.change link) (ticks + (changes.filterMap tick?).length) := by
  induction changes generalizing link ticks with
  | nil => exact warm
  | cons c rest ih =>
      cases c with
      | tick now =>
          have later := ih (warm.tick busy.1) busy.2
          rw [Nat.add_right_comm] at later
          exact later
      | arrival timestamp => exact ih (warm.change rfl) busy
      | log event => exact ih (warm.change rfl) busy
      | mode requested => exact ih (warm.change rfl) busy
      | alliance alliance => exact ih (warm.change rfl) busy

/-! ## Runs -/

theorem warm_play (settings : HealthSettings) (changes : List LinkChange) :
    Warm settings (play settings changes) 0 := by
  induction changes using List.reverseRecOn with
  | nil =>
      have zero : (0.0 : Rat) = 0 := by norm_num
      refine ⟨rfl, rfl, ?_, ?_, nofun⟩
      · rw [pow_zero, sub_self, zero_mul]
        exact zero.ge
      · rw [pow_zero, sub_self]
        exact zero.ge
  | append_singleton changes c ih =>
      rw [play_concat]
      cases c with
      | tick now => exact ih.tick_cold now
      | arrival timestamp => exact ih.change rfl
      | log event => exact ih.change rfl
      | mode requested => exact ih.change rfl
      | alliance alliance => exact ih.change rfl

/-- Whatever came before, after so many ticks that all find the link as busy as expected the
relative rate lacks no more than the half, as often as there were ticks; and from the fourth such
tick on the link is healthy. -/
theorem relativeRate_after_busy_ticks (settings : HealthSettings) (before during : List LinkChange)
    (busy : BusyTicks settings (play settings before) during) :
    let link : Link Rat := play settings (before ++ during)
    let ticks := (during.filterMap tick?).length
    1 - (1 / 2) ^ ticks ≤ link.relativeRate ∧ (4 ≤ ticks -> link.status = .healthy) := by
  intro link ticks
  have warm := (warm_play settings before).run busy
  rw [Nat.zero_add] at warm
  have whole : during.foldl Link.change (play settings before) = link :=
    List.foldl_append.symm
  rw [whole] at warm
  exact ⟨warm.relative, warm.status⟩

/-- The link was down for a minute, and then a batch comes in each tenth of a second. -/
theorem relativeRate_after_busy_ticks_of_restart :
    let before : List LinkChange := [.tick 0, .mode .teleop, .tick 60000]
    let during : List LinkChange := [.arrival 60010, .tick 60050, .arrival 60110, .tick 60150,
      .arrival 60210, .arrival 60215, .tick 60250,
      .log { timestamp := 0, level := .error, message := "" }, .arrival 60310, .tick 60350]
    BusyTicks {} (play {} before) during ∧
      1 - (1 / 2) ^ 4 ≤ (play {} (before ++ during) : Link Rat).relativeRate ∧
      (play {} (before ++ during) : Link Rat).status = .healthy := by
  intro before during
  have busy : BusyTicks {} (play {} before) during := by
    decide +kernel
  have law := relativeRate_after_busy_ticks {} before during busy
  exact ⟨busy, law.1, law.2 (by decide)⟩

end

end Link
end RobotConsole
