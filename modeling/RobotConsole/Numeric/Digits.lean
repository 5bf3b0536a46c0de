/-!
# Decimal digits

Only the ten ASCII digits count as digits; those of other scripts do not.
-/

namespace RobotConsole
namespace Numeric

def isDigit (c : Char) : Bool :=
  '0' ≤ c && c ≤ '9'

def digitValue (c : Char) : Nat :=
  c.toNat - '0'.toNat

def digit? (c : Char) : Option Nat :=
  if isDigit c then some (digitValue c) else none

def ofDigits (cs : List Char) : Nat :=
  cs.foldl (fun n c => 10 * n + digitValue c) 0

def spanDigits (cs : List Char) : List Char × List Char :=
  (cs.takeWhile isDigit, cs.dropWhile isDigit)

/-- A sign in front, if any: whether it is a minus, and what follows it. -/
def spanSign : List Char -> Bool × List Char
  | '+' :: rest => (false, rest)
  | '-' :: rest => (true, rest)
  | cs => (false, cs)

theorem isDigit_of_mem_spanDigits {cs : List Char} {c : Char}
    (h : c ∈ (spanDigits cs).1) : isDigit c = true :=
  List.all_eq_true.1 List.all_takeWhile c h

theorem spanDigits_append (cs : List Char) :
    (spanDigits cs).1 ++ (spanDigits cs).2 = cs :=
  List.takeWhile_append_dropWhile

end Numeric
end RobotConsole
