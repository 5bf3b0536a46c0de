import RobotConsole.Duration.Basic
import RobotConsole.Numeric.FloatLiteral
import RobotConsole.Numeric.FixedPlaces
import RobotConsole.Text.Blank

/-!
# Duration text

Settings and the command line give durations as a float literal and a unit, such
as `200ms` or `0.05 s`. Two forms are written: a short one with a fixed number of
places, and an exact one.
-/

namespace RobotConsole

/-- The units, in the order in which a text is tried against them: a unit that is the end of
another one comes later. -/
inductive DurationUnit where
  | nanoseconds
  | microseconds
  | microsecondsAscii
  | milliseconds
  | seconds
  deriving DecidableEq, Repr

namespace DurationUnit

def all : List DurationUnit :=
  [nanoseconds, microseconds, microsecondsAscii, milliseconds, seconds]

def symbol : DurationUnit -> String
  | nanoseconds => "ns"
  | microseconds => "µs"
  | microsecondsAscii => "us"
  | milliseconds => "ms"
  | seconds => "s"

def factor : DurationUnit -> Float
  | nanoseconds => 1.0
  | microseconds => 1000.0
  | microsecondsAscii => 1000.0
  | milliseconds => 1000000.0
  | seconds => 1000000000.0

end DurationUnit

inductive DurationError where
  | unknownFormat (text : String)
  | number (error : Numeric.FloatLiteralError)
  | negative (text : String)
  deriving DecidableEq, Repr

def DurationError.message : DurationError -> String
  | unknownFormat text => "Unknown duration format: " ++ text
  | number error => error.message
  | negative text => "Duration must be a non-negative number: " ++ text

namespace Duration

/-! ## Reading -/

/-- The first unit that a text ends with, and the text in front of it. -/
def splitUnit? (cs : List Char) : Option (DurationUnit × List Char) :=
  DurationUnit.all.findSome? fun unit =>
    (Text.withoutSuffix? unit.symbol.toList cs).map fun front => (unit, front)

/-- The greatest natural of 64 bits that is at most `x`, for an `x` that is not negative. -/
def clampedNat (x : Float) : Nat :=
  match Numeric.Binary64.ofFloat x with
  | .finite parts => min parts.floor (Numeric.wordSize 64 - 1)
  | .infinite _ => Numeric.wordSize 64 - 1
  | .nan => 0

def isNonNegative (x : Float) : Bool :=
  Numeric.isFinite x && !(x < 0.0)

def parse (s : String) : Except DurationError Duration :=
  let trimmed := Text.trimChars s.toList
  match splitUnit? trimmed with
  | none => .error (.unknownFormat (String.ofList trimmed))
  | some (unit, front) =>
      match Numeric.FloatLiteral.read (Text.trimChars front) with
      | .error e => .error (.number e)
      | .ok literal =>
          if isNonNegative literal.value then .ok ⟨clampedNat (literal.value * unit.factor)⟩
          else .error (.negative (String.ofList trimmed))

/-! ## Writing -/

def format (d : Duration) : String :=
  if d.nanos = 0 then "0ns"
  else if d.nanos < 1000000 then
    Numeric.fixedPlaces 2 (Float.ofNat d.nanos / 1000.0) ++ "µs"
  else if d.nanos < nanosPerSecond then
    Numeric.fixedPlaces 0 (Float.ofNat d.nanos / 1000000.0) ++ "ms"
  else Numeric.fixedPlaces 2 d.toFloat ++ "s"

/-- The text of `units · 10 ^ (-places)` with no zeros at the end of its fraction. -/
def shortPointed : Nat -> Nat -> String
  | 0, units => toString units
  | places + 1, units =>
      if units % 10 = 0 then shortPointed places (units / 10)
      else Numeric.pointed (places + 1) units

def exactText (d : Duration) : String :=
  if nanosPerSecond ≤ d.nanos then shortPointed 9 d.nanos ++ "s"
  else if 1000000 ≤ d.nanos then shortPointed 6 d.nanos ++ "ms"
  else if 1000 ≤ d.nanos then shortPointed 3 d.nanos ++ "µs"
  else toString d.nanos ++ "ns"

end Duration
end RobotConsole
