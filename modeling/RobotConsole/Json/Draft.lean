import RobotConsole.Json.Basic
import RobotConsole.Numeric.Digits
import RobotConsole.Numeric.Words

/-!
# Reading JSON

A draft is a JSON text as far as it can be read. Reading never fails: the place
where a text stops being JSON is part of the draft, as are the values that are
JSON but cannot be held (a number out of range, an unpaired surrogate, a nesting
too deep). So a decoder, which walks a draft in the order of the text, meets
faults of the text and faults of its own in the order in which they stand; and a
value that nobody needs may be one that cannot be held.
-/

namespace RobotConsole
namespace Json

inductive Ending where
  | closed
  /-- With a name that cannot be held; what follows is well formed. -/
  | unreadable
  | broken
  deriving DecidableEq, Repr

inductive Draft where
  | null
  | bool (b : Bool)
  | integer (n : Int)
  | float (x : Float)
  | string (s : String)
  | array (items : List Draft) (ending : Ending)
  | object (members : List (String × Draft)) (ending : Ending)
  /-- A value that is well formed but cannot be held. -/
  | unreadable
  | broken
  deriving Inhabited

namespace Draft

def isBroken : Draft -> Bool
  | broken => true
  | array _ .broken => true
  | object _ .broken => true
  | _ => false

/-! ## Blank space -/

def isSpace (c : Char) : Bool :=
  c = ' ' || c = '\n' || c = '\t' || c = '\r'

def skipSpace (cs : List Char) : List Char :=
  cs.dropWhile isSpace

/-! ## Numbers -/

structure NumberToken where
  negative : Bool
  whole : List Char
  fraction : List Char
  /-- The exponent, and whether a point or an exponent is there at all. -/
  exponent : Int
  fractional : Bool

def readFraction? (cs : List Char) : Option (List Char × Bool × List Char) :=
  match cs with
  | '.' :: rest =>
      let (digits, rest) := Numeric.spanDigits rest
      if digits = [] then none else some (digits, true, rest)
  | _ => some ([], false, cs)

def readExponent? (cs : List Char) : Option (Int × Bool × List Char) :=
  match cs with
  | c :: rest =>
      if c = 'e' ∨ c = 'E' then
        let (negative, rest) := Numeric.spanSign rest
        let (digits, rest) := Numeric.spanDigits rest
        let size : Int := Numeric.ofDigits digits
        if digits = [] then none else some (if negative then -size else size, true, rest)
      else some (0, false, cs)
  | [] => some (0, false, [])

/-- The number at the head of a text. No zero stands in front of other whole digits. -/
def readToken? (cs : List Char) : Option (NumberToken × List Char) := do
  let (negative, rest) :=
    match cs with
    | '-' :: rest => (true, rest)
    | _ => (false, cs)
  let (whole, rest) := Numeric.spanDigits rest
  guard (whole ≠ [] ∧ (whole.head? = some '0' -> whole = ['0']))
  let (fraction, hasPoint, rest) ← readFraction? rest
  let (exponent, hasExponent, rest) ← readExponent? rest
  some (⟨negative, whole, fraction, exponent, hasPoint || hasExponent⟩, rest)

/-- Digits are taken into a number as long as it stays below `2 ^ 64`. -/
def takeDigits : Nat -> List Char -> Nat × List Char
  | n, [] => (n, [])
  | n, c :: rest =>
      let next := 10 * n + Numeric.digitValue c
      if next < Numeric.wordSize 64 then takeDigits next rest else (n, c :: rest)

/-- One multiplication or division by a power of ten; below the range of such powers, several
divisions. -/
def scale : Nat -> Float -> Int -> Option Float
  | 0, _, _ => none
  | fuel + 1, x, exponent =>
      if exponent.natAbs ≤ 308 then
        let power := Float.ofScientific 1 false exponent.natAbs
        if exponent < 0 then some (x / power)
        else if (x * power).isInf then none
        else some (x * power)
      else if x == 0.0 then some x
      else if 0 ≤ exponent then none
      else scale fuel (x / 1e308) (exponent + 308)

/-- The double that a number stands for. Its first digits, as many as fit into 64 bits, are
taken as a double, which is then scaled; so the result may be off by one unit in the last
place. -/
def NumberToken.double? (t : NumberToken) : Option Float := do
  let (whole, beyond) := takeDigits 0 t.whole
  let (significand, dropped) := takeDigits whole t.fraction
  let taken := t.fraction.length - dropped.length
  let exponent : Int := t.exponent + beyond.length - taken
  let x ← scale 4 (Float.ofNat significand) exponent
  some (if t.negative then -x else x)

/-- Whole numbers from `-2 ^ 63` up to `2 ^ 64` are held as such, apart from the negative zero. -/
def NumberToken.draft (t : NumberToken) : Draft :=
  let size := Numeric.ofDigits t.whole
  let asFloat := (t.double?.map float).getD unreadable
  if t.fractional then asFloat
  else if t.negative then
    if size ≠ 0 ∧ size ≤ Numeric.wordSize 63 then integer (-size) else asFloat
  else if size < Numeric.wordSize 64 then integer size
  else asFloat

/-! ## Strings -/

/-- An element of a string: a character, or half of one that is escaped as two. -/
inductive Unit16 where
  | char (c : Char)
  | surrogate (n : Nat)
  deriving DecidableEq, Repr

def hexValue? (c : Char) : Option Nat :=
  if '0' ≤ c ∧ c ≤ '9' then some (c.toNat - '0'.toNat)
  else if 'a' ≤ c ∧ c ≤ 'f' then some (c.toNat - 'a'.toNat + 10)
  else if 'A' ≤ c ∧ c ≤ 'F' then some (c.toNat - 'A'.toNat + 10)
  else none

def hexUnit? (a b c d : Char) : Option Unit16 := do
  let n := 4096 * (← hexValue? a) + 256 * (← hexValue? b) + 16 * (← hexValue? c) + (← hexValue? d)
  some (if 0xD800 ≤ n ∧ n ≤ 0xDFFF then .surrogate n else .char (Char.ofNat n))

def simpleEscape? (c : Char) : Option Char :=
  match c with
  | '"' => some '"'
  | '\\' => some '\\'
  | '/' => some '/'
  | 'b' => some '\x08'
  | 'f' => some '\x0c'
  | 'n' => some '\n'
  | 'r' => some '\r'
  | 't' => some '\t'
  | _ => none

def readUnits? : List Char -> Option (List Unit16 × List Char)
  | [] => none
  | '"' :: rest => some ([], rest)
  | '\\' :: 'u' :: a :: b :: c :: d :: rest => do
      let unit ← hexUnit? a b c d
      let (units, rest) ← readUnits? rest
      some (unit :: units, rest)
  | '\\' :: c :: rest => do
      let c ← simpleEscape? c
      let (units, rest) ← readUnits? rest
      some (.char c :: units, rest)
  | c :: rest =>
      if c = '\\' ∨ c.toNat < 0x20 then none
      else do
        let (units, rest) ← readUnits? rest
        some (.char c :: units, rest)

/-- Two halves make a character; a half that stands alone makes none. -/
def joinUnits? : List Unit16 -> Option (List Char)
  | [] => some []
  | .char c :: rest => (joinUnits? rest).map (c :: ·)
  | .surrogate high :: .surrogate low :: rest =>
      if high < 0xDC00 ∧ 0xDC00 ≤ low then
        let c := Char.ofNat (0x10000 + 0x400 * (high - 0xD800) + (low - 0xDC00))
        (joinUnits? rest).map (c :: ·)
      else none
  | .surrogate _ :: _ => none

/-- A string behind its opening quote: none if it is malformed, and no text if that cannot be
held. -/
def readString? (cs : List Char) : Option (Option String × List Char) :=
  (readUnits? cs).map fun (units, rest) => ((joinUnits? units).map String.ofList, rest)

/-! ## Values -/

def depthLimit : Nat := 127

/-- A bracketed value at a place where `room` more levels may be opened. -/
def within (room : Nat) (value : Draft) : Draft :=
  if value.isBroken then
    if room = 0 then broken else value
  else if room = 0 then unreadable
  else value

mutual

def readValue : Nat -> Nat -> List Char -> Draft × List Char
  | 0, _, _ => (broken, [])
  | fuel + 1, room, cs =>
      match skipSpace cs with
      | 'n' :: 'u' :: 'l' :: 'l' :: rest => (null, rest)
      | 't' :: 'r' :: 'u' :: 'e' :: rest => (bool true, rest)
      | 'f' :: 'a' :: 'l' :: 's' :: 'e' :: rest => (bool false, rest)
      | '"' :: rest =>
          match readString? rest with
          | none => (broken, [])
          | some (none, rest) => (unreadable, rest)
          | some (some s, rest) => (string s, rest)
      | '[' :: rest =>
          match skipSpace rest with
          | ']' :: rest => (within room (array [] .closed), rest)
          | rest =>
              let (items, ending, rest) := readItems fuel (room - 1) rest
              (within room (array items ending), rest)
      | '{' :: rest =>
          match skipSpace rest with
          | '}' :: rest => (within room (object [] .closed), rest)
          | rest =>
              let (members, ending, rest) := readMembers fuel (room - 1) rest
              (within room (object members ending), rest)
      | rest =>
          match readToken? rest with
          | none => (broken, [])
          | some (token, rest) => (token.draft, rest)

def readItems : Nat -> Nat -> List Char -> List Draft × Ending × List Char
  | 0, _, _ => ([], .broken, [])
  | fuel + 1, room, cs =>
      let (item, rest) := readValue fuel room cs
      if item.isBroken then ([item], .broken, [])
      else
        match skipSpace rest with
        | ']' :: rest => ([item], .closed, rest)
        | ',' :: rest =>
            let (items, ending, rest) := readItems fuel room rest
            (item :: items, ending, rest)
        | _ => ([item], .broken, [])

def readMembers : Nat -> Nat -> List Char -> List (String × Draft) × Ending × List Char
  | 0, _, _ => ([], .broken, [])
  | fuel + 1, room, cs =>
      match skipSpace cs with
      | '"' :: rest =>
          match readString? rest with
          | none => ([], .broken, [])
          | some (name, rest) =>
              let (value, rest) :=
                match skipSpace rest with
                | ':' :: rest => readValue fuel room rest
                | _ => (broken, [])
              let (others, ending, rest) :=
                if value.isBroken then ([], Ending.broken, [])
                else
                  match skipSpace rest with
                  | '}' :: rest => ([], Ending.closed, rest)
                  | ',' :: rest => readMembers fuel room rest
                  | _ => ([], Ending.broken, [])
              match name with
              | some name => ((name, value) :: others, ending, rest)
              | none => ([], if ending = .broken then .broken else .unreadable, rest)
      | _ => ([], .broken, [])

end

def read (cs : List Char) : Draft × List Char :=
  readValue (2 * cs.length + 2) depthLimit cs

/-! ## Drafts of values -/

mutual

def ofJson : Json -> Draft
  | .null => null
  | .bool b => bool b
  | .integer n => integer n
  | .float x => float x
  | .string s => string s
  | .array items => array (ofItems items) .closed
  | .object members => object (ofMembers members) .closed

def ofItems : List Json -> List Draft
  | [] => []
  | item :: rest => ofJson item :: ofItems rest

def ofMembers : List (String × Json) -> List (String × Draft)
  | [] => []
  | (name, value) :: rest => (name, ofJson value) :: ofMembers rest

end

mutual

def value? : Draft -> Option Json
  | null => some .null
  | bool b => some (.bool b)
  | integer n => some (.integer n)
  | float x => some (.float x)
  | string s => some (.string s)
  | array items .closed => (items? items).map .array
  | object members .closed => (members? members).map .object
  | _ => none

def items? : List Draft -> Option (List Json)
  | [] => some []
  | item :: rest => do some ((← value? item) :: (← items? rest))

def members? : List (String × Draft) -> Option (List (String × Json))
  | [] => some []
  | (name, value) :: rest => do some ((name, ← value? value) :: (← members? rest))

end

end Draft
end Json
end RobotConsole
