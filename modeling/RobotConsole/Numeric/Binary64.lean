import RobotConsole.Numeric.Rounding
import RobotConsole.Numeric.Words

/-!
# Exact values of double precision numbers

A finite double is `± m · 2 ^ q` for naturals `m` and integers `q`. The parts are
read off its 64 bits, so that everything built on them is exact arithmetic on
naturals.
-/

namespace RobotConsole
namespace Numeric

/-- The value `± significand · 2 ^ exponent`. -/
structure BinaryParts where
  negative : Bool
  significand : Nat
  exponent : Int
  deriving DecidableEq, Repr

inductive Binary64 where
  | nan
  | infinite (negative : Bool)
  | finite (parts : BinaryParts)
  deriving DecidableEq, Repr

namespace Binary64

def ofBits (bits : Nat) : Binary64 :=
  let negative : Bool := (bits >>> 63) % 2 = 1
  let biased : Nat := (bits >>> 52) % wordSize 11
  let fraction : Nat := bits % wordSize 52
  if biased = 2047 then
    if fraction = 0 then infinite negative else nan
  else if biased = 0 then finite ⟨negative, fraction, -1074⟩
  else finite ⟨negative, wordSize 52 + fraction, (biased : Int) - 1075⟩

def ofFloat (x : Float) : Binary64 :=
  ofBits x.toBits.toNat

end Binary64

def isFinite (x : Float) : Bool :=
  match Binary64.ofFloat x with
  | .finite _ => true
  | _ => false

def BinaryParts.quotient (p : BinaryParts) : Nat × Nat :=
  (p.significand * Nat.pow 2 p.exponent.toNat, Nat.pow 2 (-p.exponent).toNat)

def BinaryParts.floor (p : BinaryParts) : Nat :=
  p.quotient.1 / p.quotient.2

/-- A magnitude in units of `10 ^ (-places)`, rounded to the nearest. -/
def BinaryParts.scaled (p : BinaryParts) (places : Nat) : Nat :=
  roundDiv (p.quotient.1 * Nat.pow 10 places) p.quotient.2

end Numeric
end RobotConsole
