import RobotConsole.Numeric.Digits
import RobotConsole.Numeric.Words

/-!
# Reading whole numbers

A natural below a limit is read from an optional plus sign and one or more
digits. The first fault in the text is the one reported: a character that is no
digit, or the digit that passes the limit.
-/

namespace RobotConsole
namespace Numeric

inductive WholeNumberError where
  | empty
  | invalidDigit
  | tooLarge
  deriving DecidableEq, Repr

def WholeNumberError.message : WholeNumberError -> String
  | empty => "cannot parse integer from empty string"
  | invalidDigit => "invalid digit found in string"
  | tooLarge => "number too large to fit in target type"

/-- The number below `limit` that `n`, followed by the digits, stands for. -/
def extendBelow (limit : Nat) : Nat -> List Char -> Except WholeNumberError Nat
  | n, [] => .ok n
  | n, c :: rest =>
      match digit? c with
      | none => .error .invalidDigit
      | some d => if 10 * n + d < limit then extendBelow limit (10 * n + d) rest else .error .tooLarge

/-- The number below `limit` written as an optional plus sign and digits. -/
def readBelow (limit : Nat) : List Char -> Except WholeNumberError Nat
  | [] => .error .empty
  | ['+'] => .error .invalidDigit
  | '+' :: rest => extendBelow limit 0 rest
  | cs => extendBelow limit 0 cs

def readSigned? (bits : Nat) (cs : List Char) : Option Int :=
  let limit := wordSize (bits - 1)
  match cs with
  | '-' :: c :: rest => ((extendBelow (limit + 1) 0 (c :: rest)).toOption).map fun n => -(n : Int)
  | _ => ((readBelow limit cs).toOption).map fun n => (n : Int)

end Numeric
end RobotConsole
