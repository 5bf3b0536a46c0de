import RobotConsole.Duration.Basic

/-!
# Numbers to estimate rates with

The estimator is written once for any numbers with these operations. A session
runs it on doubles; its exact behaviour is that on rationals.
-/

namespace RobotConsole

class RateScalar (α : Type) extends Add α, Mul α, Div α, OfScientific α where
  ofInt : Int -> α
  /-- The milliseconds from one time to another, as the numbers have them. -/
  millisBetween : Int -> Int -> α
  seconds : Duration -> α
  /-- The least number of seconds that is divided by. -/
  tiny : α
  less : α -> α -> Bool
  isFinite : α -> Bool

-- With doubles go times of 64 bits, whose differences wrap around.
instance : RateScalar Float where
  ofInt := Float.ofInt
  millisBetween start finish := Float.ofInt (Numeric.wrapInt64 (finish - start))
  seconds := Duration.toFloat
  tiny := 2.220446049250313e-16
  less a b := a < b
  isFinite := Numeric.isFinite

instance : RateScalar Rat where
  ofInt n := n
  millisBetween start finish := (finish - start : Int)
  seconds d := (d.nanos : Rat) / (Duration.nanosPerSecond : Rat)
  tiny := 1 / 4503599627370496
  less a b := a < b
  isFinite _ := true

end RobotConsole
