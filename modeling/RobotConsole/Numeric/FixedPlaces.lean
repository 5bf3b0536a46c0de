import RobotConsole.Numeric.Binary64

/-!
# Decimal text with a fixed number of places

The exact value of a double is rounded to the places asked for, a half going to
the even neighbour.
-/

namespace RobotConsole
namespace Numeric

def padded (width n : Nat) : String :=
  let digits := toString n
  String.ofList (List.replicate (width - digits.length) '0') ++ digits

def pointed (places units : Nat) : String :=
  if places = 0 then toString units
  else toString (units / Nat.pow 10 places) ++ "." ++ padded places (units % Nat.pow 10 places)

def signText (negative : Bool) : String :=
  if negative then "-" else ""

/-- The text of a double to `places` decimal places. The sign of a negative zero is kept. -/
def fixedPlaces (places : Nat) (x : Float) : String :=
  match Binary64.ofFloat x with
  | .nan => "NaN"
  | .infinite negative => signText negative ++ "inf"
  | .finite parts => signText parts.negative ++ pointed places (parts.scaled places)

end Numeric
end RobotConsole
