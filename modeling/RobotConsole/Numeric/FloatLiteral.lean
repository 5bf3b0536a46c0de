import RobotConsole.Numeric.Digits
import RobotConsole.Numeric.Rounding

/-!
# Reading doubles

A float literal is an optional sign, then digits with an optional point among
them or at either end and an optional exponent, or one of the words `inf`,
`infinity` and `nan` in any letter case. Its value is the double nearest to the
decimal, infinite when that is out of range.
-/

namespace RobotConsole
namespace Numeric

inductive FloatLiteral where
  | nan
  | infinite (negative : Bool)
  | decimal (negative : Bool) (digits : Nat) (exponent : Int)
  deriving DecidableEq, Repr

inductive FloatLiteralError where
  | empty
  | invalid
  deriving DecidableEq, Repr

def FloatLiteralError.message : FloatLiteralError -> String
  | empty => "cannot parse float from empty string"
  | invalid => "invalid float literal"

namespace FloatLiteral

def readExponent? : List Char -> Option Int
  | [] => some 0
  | c :: rest =>
      if c = 'e' ∨ c = 'E' then
        let (negative, digits) := spanSign rest
        if digits ≠ [] ∧ digits.all isDigit then
          some (if negative then -(ofDigits digits : Int) else ofDigits digits)
        else none
      else none

def readDecimal? (negative : Bool) (cs : List Char) : Option FloatLiteral :=
  let (whole, rest) := spanDigits cs
  let (fraction, rest) :=
    match rest with
    | '.' :: rest => spanDigits rest
    | _ => ([], rest)
  if whole = [] ∧ fraction = [] then none
  else
    (readExponent? rest).map fun exponent =>
      decimal negative (ofDigits (whole ++ fraction)) (exponent - fraction.length)

def read? (cs : List Char) : Option FloatLiteral :=
  let (negative, body) := spanSign cs
  let word := body.map Char.toLower
  if word = "nan".toList then some nan
  else if word = "inf".toList ∨ word = "infinity".toList then some (infinite negative)
  else readDecimal? negative body

def read (cs : List Char) : Except FloatLiteralError FloatLiteral :=
  if cs = [] then .error .empty
  else
    match read? cs with
    | some literal => .ok literal
    | none => .error .invalid

/-- The double nearest to `digits · 10 ^ exponent`. Far outside of the range of doubles the
answer is known from the size alone. -/
def nearest (digits : Nat) (exponent : Int) : Float :=
  let size := digitCount digits + exponent
  if digits = 0 ∨ size < -330 then 0.0
  else if 310 < size then 1.0 / 0.0
  else Float.ofScientific digits (exponent < 0) exponent.natAbs

def value : FloatLiteral -> Float
  | nan => 0.0 / 0.0
  | infinite negative => if negative then -(1.0 / 0.0) else 1.0 / 0.0
  | decimal negative digits exponent =>
      if negative then -(nearest digits exponent) else nearest digits exponent

end FloatLiteral

end Numeric
end RobotConsole
