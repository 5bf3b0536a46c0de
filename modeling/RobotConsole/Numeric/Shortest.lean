import RobotConsole.Numeric.FixedPlaces

/-!
# Shortest decimal text of a double

Of all decimals that read back as a given double, the text has one with the
fewest digits, and of these the nearest to the double. The digits are found by
testing, grid by grid, the two neighbours of the double on the decimal grids
with 1, 2, … 17 digits.
-/

namespace RobotConsole
namespace Numeric

structure DecimalParts where
  digits : Nat
  exponent : Int
  deriving DecidableEq, Repr

/-- The reals that round to one double, all multiplied by `scale`. -/
structure RoundingInterval where
  scale : Nat
  low : Nat
  value : Nat
  high : Nat
  closed : Bool

/-- The interval of `m · 2 ^ q`: half a unit to either side, a quarter below a power of two. -/
def RoundingInterval.ofParts (significand : Nat) (exponent : Int) : RoundingInterval :=
  let unit := Nat.pow 2 exponent.toNat
  let below := if significand = wordSize 52 ∧ -1074 < exponent then 1 else 2
  { scale := 4 * Nat.pow 2 (-exponent).toNat
    low := (4 * significand - below) * unit
    value := 4 * significand * unit
    high := (4 * significand + 2) * unit
    closed := significand % 2 = 0 }

def RoundingInterval.holds (i : RoundingInterval) (num den : Nat) : Bool :=
  let point := num * i.scale
  if i.closed then i.low * den ≤ point && point ≤ i.high * den
  else i.low * den < point && point < i.high * den

def RoundingInterval.distance (i : RoundingInterval) (num den : Nat) : Nat :=
  let point := num * i.scale
  let value := i.value * den
  if point ≤ value then value - point else point - value

/-- The point of the grid of multiples of `10 ^ exponent` next to the value, if one rounds to it. -/
def RoundingInterval.onGrid? (i : RoundingInterval) (exponent : Int) : Option DecimalParts :=
  let up := Nat.pow 10 exponent.toNat
  let down := Nat.pow 10 (-exponent).toNat
  let lower := i.value * down / (i.scale * up)
  let upper := lower + 1
  let lowerFits := lower ≠ 0 && i.holds (lower * up) down
  let upperFits := i.holds (upper * up) down
  if lowerFits && (!upperFits || i.distance (lower * up) down ≤ i.distance (upper * up) down) then
    some ⟨lower, exponent⟩
  else if upperFits then some ⟨upper, exponent⟩
  else none

/-- The least `e` with `value / scale < 10 ^ e`. -/
def RoundingInterval.magnitude (i : RoundingInterval) : Int :=
  let whole := i.value / i.scale
  if whole ≠ 0 then digitCount whole
  else 1 - (digitCount (i.scale / i.value) : Int)

def DecimalParts.stripped (d : DecimalParts) : DecimalParts :=
  go 20 d
where
  go : Nat -> DecimalParts -> DecimalParts
    | 0, d => d
    | fuel + 1, d =>
        if d.digits ≠ 0 ∧ d.digits % 10 = 0 then go fuel ⟨d.digits / 10, d.exponent + 1⟩ else d

/-- The shortest decimal that reads back as `significand · 2 ^ exponent`. -/
def shortestDecimal (significand : Nat) (exponent : Int) : DecimalParts :=
  if significand = 0 then ⟨0, 0⟩
  else
    let interval := RoundingInterval.ofParts significand exponent
    let top := interval.magnitude
    let grids := (List.range 18).map fun (n : Nat) => top - n
    ((grids.findSome? interval.onGrid?).getD ⟨0, 0⟩).stripped

/-! ## Spelling the decimal out -/

def zeros (n : Nat) : String :=
  String.ofList (List.replicate n '0')

def DecimalParts.positional (d : DecimalParts) : String :=
  if d.digits = 0 then "0"
  else if 0 ≤ d.exponent then toString d.digits ++ zeros d.exponent.toNat
  else pointed (-d.exponent).toNat d.digits

/-- A number that reads as a fraction: a point or an exponent is always there. The exponent is
used outside of `1e-5 ≤ x < 1e16`. -/
def DecimalParts.scientific (d : DecimalParts) : String :=
  let text := toString d.digits
  let point := text.length + d.exponent
  if d.digits = 0 then "0.0"
  else if 0 ≤ d.exponent ∧ point ≤ 16 then d.positional ++ ".0"
  else if -5 < point ∧ point ≤ 16 then d.positional
  else
    let mantissa :=
      if text.length = 1 then text
      else pointed (text.length - 1) d.digits
    mantissa ++ "e" ++ toString (point - 1)

def plainText (x : Float) : String :=
  match Binary64.ofFloat x with
  | .nan => "NaN"
  | .infinite negative => signText negative ++ "inf"
  | .finite p => signText p.negative ++ (shortestDecimal p.significand p.exponent).positional

def literalText (x : Float) : String :=
  match Binary64.ofFloat x with
  | .nan => "NaN"
  | .infinite negative => signText negative ++ "inf"
  | .finite p => signText p.negative ++ (shortestDecimal p.significand p.exponent).scientific

end Numeric
end RobotConsole
