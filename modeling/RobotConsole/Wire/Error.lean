import RobotConsole.Duration.Text
import RobotConsole.Numeric.WholeNumber

/-!
# Faults of a wire text

Why a JSON text does not stand for a value of the type asked for. Texts that are
not JSON, and values of a wrong kind, have no message of their own here: it is
the reader of the text that words them.
-/

namespace RobotConsole

inductive WireError where
  | malformed
  | missingField (name : String)
  | duplicateField (name : String)
  | unknownVariant (found : String) (known : List String)
  | noDuration
  | negativeDevice
  | wholeNumber (error : Numeric.WholeNumberError)
  | duration (error : DurationError)
  /-- A number of seconds that no duration is as long as. The program does not go on. -/
  | endlessDuration
  deriving DecidableEq, Repr

namespace WireError

def inTicks (s : String) : String :=
  "`" ++ s ++ "`"

def expectation : List String -> String
  | [] => "there are no variants"
  | [a] => "expected " ++ inTicks a
  | [a, b] => "expected " ++ inTicks a ++ " or " ++ inTicks b
  | names => "expected one of " ++ String.intercalate ", " (names.map inTicks)

def message? : WireError -> Option String
  | malformed => none
  | missingField name => some ("missing field " ++ inTicks name)
  | duplicateField name => some ("duplicate field " ++ inTicks name)
  | unknownVariant found known =>
      some ("unknown variant " ++ inTicks found ++ ", " ++ expectation known)
  | noDuration => some "data did not match any variant of untagged enum Raw"
  | negativeDevice => some "device id must be non-negative"
  | wholeNumber error => some error.message
  | duration error => some error.message
  | endlessDuration => none

def isFatal (e : WireError) : Bool :=
  e = endlessDuration

end WireError

abbrev Decoded := Except WireError

end RobotConsole
