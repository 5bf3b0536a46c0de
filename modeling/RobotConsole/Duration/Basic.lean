import RobotConsole.Numeric.Binary64
import RobotConsole.Numeric.Words

/-!
# Durations

A duration is a whole number of nanoseconds, less than `2 ^ 64` seconds.
-/

namespace RobotConsole

structure Duration where
  nanos : Nat
  deriving DecidableEq, Repr, Inhabited

namespace Duration

def nanosPerSecond : Nat := 1000000000

def secondsLimit : Nat := Numeric.wordSize 64

def ofMillis (n : Nat) : Duration :=
  ⟨1000000 * n⟩

def ofSeconds (n : Nat) : Duration :=
  ⟨nanosPerSecond * n⟩

def isZero (d : Duration) : Bool :=
  d.nanos = 0

def seconds (d : Duration) : Nat :=
  d.nanos / nanosPerSecond

def subsecNanos (d : Duration) : Nat :=
  d.nanos % nanosPerSecond

/-- The seconds as a double: the whole ones and the fraction are rounded apart. -/
def toFloat (d : Duration) : Float :=
  Float.ofNat d.seconds + Float.ofNat d.subsecNanos / 1e9

/-- The duration of a finite, non-negative number of seconds, rounded to the nearest nanosecond;
none if it is too long. -/
def ofFloat? (seconds : Float) : Option Duration :=
  match Numeric.Binary64.ofFloat seconds with
  | .finite parts =>
      if parts.floor < secondsLimit then some ⟨parts.scaled 9⟩ else none
  | _ => none

def max (a b : Duration) : Duration :=
  if a.nanos < b.nanos then b else a

def ceilMillis (d : Duration) : Nat :=
  (d.nanos + 999999) / 1000000

end Duration
end RobotConsole
