import RobotConsole.Json.Basic
import RobotConsole.Numeric.Binary64
import RobotConsole.Numeric.FixedPlaces
import RobotConsole.Numeric.FloatLiteral
import RobotConsole.Numeric.Words
import RobotConsole.Toml.Text

/-!
# Numbers, truth values and dates of TOML

Each is a word without spaces, but for the space that may stand between a date
and a time. Dates and times are texts in a standard spelling.
-/

namespace RobotConsole
namespace Toml

open Numeric (isDigit ofDigits spanDigits spanSign)

/-! ## Whole numbers -/

def ungroup? (isDigit : Char -> Bool) : List Char -> Option (List Char)
  | [] => none
  | [c] => if isDigit c then some [c] else none
  | c :: '_' :: rest => if isDigit c then (ungroup? isDigit rest).map (c :: ·) else none
  | c :: rest => if isDigit c then (ungroup? isDigit rest).map (c :: ·) else none

def wholeDigits? (cs : List Char) : Option (List Char) :=
  match ungroup? isDigit cs with
  | some ('0' :: _ :: _) => none
  | digits => digits

def readDecimal? (cs : List Char) : Option Int :=
  let (negative, body) := spanSign cs
  (wholeDigits? body).map fun digits =>
    if negative then -(ofDigits digits : Int) else ofDigits digits

def hexDigit? (c : Char) : Option Nat :=
  Json.Draft.hexValue? c

def readBase? (base : Nat) (cs : List Char) : Option Int := do
  let isDigit (c : Char) : Bool := (hexDigit? c).any (· < base)
  let digits ← ungroup? isDigit cs
  some (digits.foldl (fun n c => base * n + (hexDigit? c).getD 0) 0 : Nat)

def readWhole? : List Char -> Option Int
  | '0' :: 'x' :: rest => readBase? 16 rest
  | '0' :: 'o' :: rest => readBase? 8 rest
  | '0' :: 'b' :: rest => readBase? 2 rest
  | cs => readDecimal? cs

def readInteger? (cs : List Char) : Option Int := do
  let n ← readWhole? cs
  if Numeric.fitsInt64 n then some n else none

/-! ## Floats -/

def exponentDigits? : List Char -> Option (List Char)
  | [] => some []
  | c :: rest =>
      if c = 'e' ∨ c = 'E' then
        let sign := rest.takeWhile fun c => c = '+' || c = '-'
        let body := rest.dropWhile fun c => c = '+' || c = '-'
        if 1 < sign.length then none
        else (ungroup? isDigit body).map fun digits => 'e' :: sign ++ digits
      else none

def fractionDigits? (cs : List Char) : Option (List Char) :=
  match cs with
  | '.' :: rest => do
      let isPart (c : Char) : Bool := isDigit c || c = '_'
      let digits ← ungroup? isDigit (rest.takeWhile isPart)
      let exponent ← exponentDigits? (rest.dropWhile isPart)
      some ('.' :: digits ++ exponent)
  | _ => exponentDigits? cs

/-- A float has a fraction or an exponent, and is one that doubles hold. -/
def readFloat? (cs : List Char) : Option Float := do
  let (negative, body) := spanSign cs
  let infinity : Float := 1.0 / 0.0
  if body = "inf".toList then some (if negative then -infinity else infinity)
  else if body = "nan".toList then some (0.0 / 0.0)
  else
    let isPart (c : Char) : Bool := isDigit c || c = '_'
    let whole ← wholeDigits? (body.takeWhile isPart)
    let fraction ← fractionDigits? (body.dropWhile isPart)
    let literal ← (Numeric.FloatLiteral.read (whole ++ fraction)).toOption
    let x := literal.value
    if fraction = [] ∨ !Numeric.isFinite x then none else some (if negative then -x else x)

/-! ## Dates and times -/

def readFixed? (count : Nat) (cs : List Char) : Option (Nat × List Char) :=
  let digits := cs.take count
  if digits.length = count ∧ digits.all isDigit then some (ofDigits digits, cs.drop count)
  else none

def expect? (c : Char) : List Char -> Option (List Char)
  | d :: rest => if d = c then some rest else none
  | [] => none

def isLeapYear (year : Nat) : Bool :=
  year % 4 = 0 && (year % 100 ≠ 0 || year % 400 = 0)

def daysInMonth (year month : Nat) : Nat :=
  if month = 2 then (if isLeapYear year then 29 else 28)
  else if month = 4 ∨ month = 6 ∨ month = 9 ∨ month = 11 then 30
  else 31

def readDate? (cs : List Char) : Option (String × List Char) := do
  let (year, rest) ← readFixed? 4 cs
  let (month, rest) ← readFixed? 2 (← expect? '-' rest)
  let (day, rest) ← readFixed? 2 (← expect? '-' rest)
  guard (1 ≤ month ∧ month ≤ 12 ∧ 1 ≤ day ∧ day ≤ daysInMonth year month)
  some (Numeric.padded 4 year ++ "-" ++ Numeric.padded 2 month ++ "-" ++ Numeric.padded 2 day, rest)

/-- A fraction of a second, to nine places and without zeros at its end. -/
def readFraction? : List Char -> Option (String × List Char)
  | '.' :: rest =>
      let (digits, rest) := spanDigits rest
      let kept := ((digits.take 9).reverse.dropWhile (· = '0')).reverse
      if digits = [] then none
      else some (if kept = [] then "" else "." ++ String.ofList kept, rest)
  | rest => some ("", rest)

def readTime? (cs : List Char) : Option (String × List Char) := do
  let (hour, rest) ← readFixed? 2 cs
  let (minute, rest) ← readFixed? 2 (← expect? ':' rest)
  let (second, rest) ← readFixed? 2 (← expect? ':' rest)
  guard (hour ≤ 23 ∧ minute ≤ 59 ∧ second ≤ 60)
  let (fraction, rest) ← readFraction? rest
  some (Numeric.padded 2 hour ++ ":" ++ Numeric.padded 2 minute ++ ":" ++
    Numeric.padded 2 second ++ fraction, rest)

def readOffset? : List Char -> Option String
  | [] => some ""
  | [c] => if c = 'Z' ∨ c = 'z' then some "Z" else none
  | c :: rest => do
      guard (c = '+' ∨ c = '-')
      let (hour, rest) ← readFixed? 2 rest
      let (minute, rest) ← readFixed? 2 (← expect? ':' rest)
      guard (hour ≤ 23 ∧ minute ≤ 59 ∧ rest = [])
      let sign := if c = '-' ∧ (hour ≠ 0 ∨ minute ≠ 0) then "-" else "+"
      some (sign ++ Numeric.padded 2 hour ++ ":" ++ Numeric.padded 2 minute)

def isDateMark (c : Char) : Bool :=
  c = 'T' || c = 't' || c = ' '

def readMoment? (cs : List Char) : Option String :=
  match readDate? cs with
  | some (date, []) => some date
  | some (date, mark :: rest) => do
      guard (isDateMark mark)
      let (time, rest) ← readTime? rest
      some (date ++ "T" ++ time ++ (← readOffset? rest))
  | none =>
      match readTime? cs with
      | some (time, []) => some time
      | _ => none

/-! ## Words -/

def isWordChar (c : Char) : Bool :=
  c.isAlphanum || c = '_' || c = '-' || c = '+' || c = '.' || c = ':'

/-- The word at the head of a text. A time that follows a date after one space belongs to it. -/
def spanWord (cs : List Char) : List Char × List Char :=
  let word := cs.takeWhile isWordChar
  let rest := cs.dropWhile isWordChar
  match readDate? word, rest with
  | some (_, []), ' ' :: c :: more =>
      if isDigit c then
        (word ++ ' ' :: (c :: more).takeWhile isWordChar, (c :: more).dropWhile isWordChar)
      else (word, rest)
  | _, _ => (word, rest)

def wordValue? (word : List Char) : Option Json :=
  if word = "true".toList then some (.bool true)
  else if word = "false".toList then some (.bool false)
  else
    match readInteger? word with
    | some n => some (.integer n)
    | none =>
        match readFloat? word with
        | some x => some (.float x)
        | none => (readMoment? word).map .string

end Toml
end RobotConsole
