import RobotConsole.Proofs.Link.Rate

/-!
# Bounds of the rates

Both rates stay within their bounds, whatever the clocks say, and no tick divides by zero. For the
latter the estimator is run on numbers for which such a division has no value: it comes to the same
link as on rationals, so that no value was missing.
-/

namespace RobotConsole

/-! ## Numbers that may be undefined -/

/-- A rational, or what a division by zero gives. -/
inductive PartialRat where
  | number (q : Rat)
  | undefined
  deriving DecidableEq, Repr

namespace PartialRat

def both (f : Rat -> Rat -> PartialRat) : PartialRat -> PartialRat -> PartialRat
  | number p, number q => f p q
  | _, _ => undefined

def quotient (p q : Rat) : PartialRat :=
  if q = 0 then undefined else number (p / q)

instance : RateScalar PartialRat where
  add := both fun p q => number (p + q)
  mul := both fun p q => number (p * q)
  div := both quotient
  ofScientific digits negative places := number (OfScientific.ofScientific digits negative places)
  ofInt n := number (RateScalar.ofInt n)
  millisBetween start finish := number (RateScalar.millisBetween start finish)
  seconds d := number (RateScalar.seconds d)
  tiny := number RateScalar.tiny
  less
    | number p, number q => RateScalar.less p q
    | _, _ => false
  isFinite _ := true

theorem number_div (p : Rat) {q : Rat} (divisible : q ≠ 0) :
    number p / number q = number (p / q) :=
  if_neg divisible

end PartialRat

namespace Link

open PartialRat (number number_div)

def mapRates {α β : Type} (f : α -> β) (link : Link α) : Link β :=
  { link with
    smoothedRate := f link.smoothedRate
    relativeRate := f link.relativeRate }

section

variable (link : Link Rat) (now : Int)

/-! ## Divisors -/

theorem secondsBetween_number (start finish : Int) :
    (secondsBetween start finish : PartialRat) = number (secondsBetween start finish) := by
  have thousand : (1000.0 : Rat) ≠ 0 := by norm_num
  exact number_div _ thousand

theorem nextRate_number : (link.mapRates number).nextRate now = number (link.nextRate now) := by
  have same : (link.mapRates number).arrivals = link.arrivals := rfl
  unfold nextRate
  rw [same]
  cases link.arrivals.oldest? with
  | none => rfl
  | some first =>
      dsimp only
      rw [secondsBetween_number]
      show (if RateScalar.less (0.0 : Rat) (secondsBetween first now) = true then _ else _) = _
      by_cases positive : RateScalar.less (0.0 : Rat) (secondsBetween first now) = true
      · have divisible : (secondsBetween first now : Rat) ≠ 0 := by
          have positive : (0.0 : Rat) < secondsBetween first now := of_decide_eq_true positive
          norm_num at positive
          exact positive.ne'
        rw [if_pos positive, if_pos positive]
        show _ + number _ / number _ = _
        rw [number_div _ divisible]
        rfl
      · rw [if_neg positive, if_neg positive]
        rfl

theorem silence_number : (link.mapRates number).silence now = number (link.silence now) := by
  have same : (link.mapRates number).arrivals = link.arrivals := rfl
  unfold silence
  rw [same]
  cases link.arrivals.latest? with
  | none => rfl
  | some last => exact secondsBetween_number last now

theorem expectedRate_pos : 0 < link.expectedRate := by
  let settings : HealthSettings := { expectedInterval := link.expectedInterval }
  have same : link.expectedInterval = settings.expectedInterval := rfl
  rw [expectedRate_eq same]
  exact expectedPerSecond_pos _

theorem expectedRate_number : (link.mapRates number).expectedRate = number link.expectedRate := by
  have positive := link.expectedRate_pos
  unfold expectedRate at positive ⊢
  dsimp only at positive ⊢
  have longer : (if RateScalar.less (RateScalar.seconds link.expectedInterval : PartialRat)
        RateScalar.tiny then RateScalar.tiny else RateScalar.seconds link.expectedInterval) =
      number (if RateScalar.less (RateScalar.seconds link.expectedInterval : Rat)
        RateScalar.tiny then RateScalar.tiny else RateScalar.seconds link.expectedInterval) :=
    (apply_ite number _ _ _).symm
  show _ / (if RateScalar.less (RateScalar.seconds link.expectedInterval : PartialRat)
    RateScalar.tiny then RateScalar.tiny else RateScalar.seconds link.expectedInterval) = _
  rw [longer]
  apply number_div
  intro zero
  rw [zero, div_zero] at positive
  exact lt_irrefl 0 positive

theorem relativeTo_number (rate : Rat) :
    (link.mapRates number).relativeTo (number rate) = number (link.relativeTo rate) := by
  unfold relativeTo clampUnit
  dsimp only
  rw [expectedRate_number, number_div _ link.expectedRate_pos.ne', apply_ite number,
    apply_ite number, apply_ite number]
  rfl

/-! ## Runs without a division by zero -/

theorem tick_number : (link.mapRates number).tick now = (link.tick now).mapRates number := by
  unfold tick
  dsimp only
  rw [nextRate_number, relativeTo_number, silence_number]
  show (if RateScalar.less (link.silence now) (RateScalar.seconds link.disconnectTimeout) then _
    else _) = mapRates number (if _ then _ else _)
  rw [apply_ite (mapRates number)]
  rfl

theorem change_number (c : LinkChange) :
    (link.mapRates number).change c = (link.change c).mapRates number := by
  cases c with
  | arrival timestamp => rfl
  | tick now => exact link.tick_number now
  | log event =>
      show noteLog _ event = mapRates number (noteLog _ event)
      unfold noteLog
      rw [apply_ite (mapRates number)]
      rfl
  | mode requested =>
      show applyMode _ requested = mapRates number (applyMode _ requested)
      unfold applyMode
      rw [apply_ite (mapRates number)]
      cases requested <;> rfl
  | alliance alliance => rfl

end

theorem play_number (settings : HealthSettings) (changes : List LinkChange) :
    (play settings changes : Link PartialRat) = (play settings changes).mapRates number := by
  induction changes using List.reverseRecOn with
  | nil => rfl
  | append_singleton changes c ih => rw [play_concat, play_concat, ih, change_number]

/-! ## Bounds -/

/-- Fifty arrivals within a millisecond are the most that a tick can see. -/
def rateLimit : Rat := 50000

structure Bounded (link : Link Rat) : Prop where
  smoothed : 0 ≤ link.smoothedRate ∧ link.smoothedRate ≤ rateLimit
  relative : 0 ≤ link.relativeRate ∧ link.relativeRate ≤ 1

section

variable {link : Link Rat}

theorem windowRate_le {first now : Int} (few : link.arrivals.size ≤ arrivalCapacity)
    (later : first < now) : link.windowRate first now ≤ rateLimit := by
  have few : (link.arrivals.size : Rat) ≤ 50 := by exact_mod_cast few
  have window : (1 : Rat) ≤ (now - first : Int) := by exact_mod_cast Int.sub_pos.2 later
  unfold windowRate rateLimit
  rw [div_le_iff₀ (by linarith)]
  linarith

theorem nextRate_le (few : link.arrivals.size ≤ arrivalCapacity)
    (nonneg : 0 ≤ link.smoothedRate) (high : link.smoothedRate ≤ rateLimit) (now : Int) :
    link.nextRate now ≤ rateLimit := by
  have kept : link.smoothedRate * (decay : Rat) ≤ rateLimit := by
    show link.smoothedRate * (0.5 : Rat) ≤ _
    linarith
  cases oldest : link.arrivals.oldest? with
  | none =>
      unfold nextRate
      rw [oldest]
      exact kept
  | some first =>
      by_cases later : first < now
      · rw [nextRate_of_window oldest later]
        linarith [windowRate_le few later]
      · have closed : ¬ RateScalar.less (0.0 : Rat) (secondsBetween first now) = true := by
          have past : ((now - first : Int) : Rat) ≤ 0 := by
            exact_mod_cast Int.sub_nonpos_of_le (Int.not_lt.1 later)
          rw [secondsBetween_eq]
          show ¬ decide ((0.0 : Rat) < _) = true
          rw [decide_eq_true_eq]
          norm_num
          linarith
        unfold nextRate
        rw [oldest]
        dsimp only
        rw [if_neg closed]
        exact kept

theorem Bounded.tick (bounded : Bounded link) (few : link.arrivals.size ≤ arrivalCapacity)
    (now : Int) : Bounded (link.tick now) := by
  obtain ⟨smoothed, relative⟩ := link.tick_rates now
  have nonneg : 0 ≤ link.nextRate now :=
    (div_nonneg bounded.smoothed.1 zero_le_two).trans (half_le_nextRate link now)
  have interval : link.expectedInterval =
      ({ expectedInterval := link.expectedInterval } : HealthSettings).expectedInterval :=
    rfl
  constructor
  · rw [smoothed]
    exact ⟨nonneg, nextRate_le few bounded.smoothed.1 bounded.smoothed.2 now⟩
  · rw [relative, relativeTo_eq interval nonneg]
    have positive := expectedPerSecond_pos { expectedInterval := link.expectedInterval }
    exact ⟨le_min (div_nonneg nonneg positive.le) zero_le_one, min_le_right _ _⟩

end

theorem bounded_play (settings : HealthSettings) (changes : List LinkChange) :
    Bounded (play settings changes) := by
  induction changes using List.reverseRecOn with
  | nil =>
      have zero : (0.0 : Rat) = 0 := by norm_num
      exact ⟨⟨zero.ge, zero.le.trans (by decide)⟩, ⟨zero.ge, zero.le.trans zero_le_one⟩⟩
  | append_singleton changes c ih =>
      rw [play_concat]
      cases tick : c.tick? with
      | none =>
          obtain ⟨smoothed, relative, -⟩ := change_of_no_tick (play settings changes) tick
          exact ⟨smoothed ▸ ih.smoothed, relative ▸ ih.relative⟩
      | some now =>
          cases c with
          | tick now => exact ih.tick (sound_play settings changes).arrivals now
          | _ => cases tick

/-- Whatever the order of arrivals and ticks and whatever times they have, and for any expected
interval, the estimator never divides by zero: where such a division has no value, each number it
works with has one, and it is the same. So the smoothed rate stays within `50000` arrivals per
second and the relative rate within `1`, and none of them is negative. -/
theorem rates_bounded_without_division_by_zero (settings : HealthSettings)
    (changes : List LinkChange) :
    let link : Link Rat := play settings changes
    let partially : Link PartialRat := play settings changes
    partially = link.mapRates number ∧
      (forall start finish,
        (secondsBetween start finish : PartialRat) = number (secondsBetween start finish)) ∧
      (forall now, partially.nextRate now = number (link.nextRate now) ∧
        partially.silence now = number (link.silence now) ∧
        partially.expectedRate = number link.expectedRate ∧
        partially.relativeTo (partially.nextRate now) =
          number (link.relativeTo (link.nextRate now))) ∧
      (0 ≤ link.smoothedRate ∧ link.smoothedRate ≤ 50000) ∧
      (0 ≤ link.relativeRate ∧ link.relativeRate ≤ 1) := by
  intro link partially
  have same : partially = link.mapRates number := play_number settings changes
  have bounded : Bounded link := bounded_play settings changes
  refine ⟨same, secondsBetween_number, ?_, bounded.smoothed, bounded.relative⟩
  intro now
  rw [same, nextRate_number]
  exact ⟨rfl, link.silence_number now, link.expectedRate_number, link.relativeTo_number _⟩

/-- Fifty arrivals at one instant, seen a millisecond later, are half of the limit; ticks that go on
seeing them there come as near to it as they like. -/
example :
    let link : Link Rat := play {} (List.replicate 50 (.arrival 500) ++ [.tick 501])
    link.smoothedRate = 25000 ∧ (link.tick 501).smoothedRate = 37500 := by
  decide +kernel

end Link
end RobotConsole
