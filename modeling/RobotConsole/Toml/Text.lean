import RobotConsole.Json.Draft

/-!
# Strings and keys of TOML

Strings are quoted once or three times, with or without escapes; keys are bare
words or strings, joined by points. Lines end with a line feed here: `unifyLines`
comes first.
-/

namespace RobotConsole
namespace Toml

/-! ## Characters -/

def isSpace (c : Char) : Bool :=
  c = ' ' || c = '\t'

def isBlank (c : Char) : Bool :=
  isSpace c || c = '\n'

def skipSpace (cs : List Char) : List Char :=
  cs.dropWhile isSpace

def isControl (c : Char) : Bool :=
  (c.toNat < 0x20 && c != '\t' && c != '\n') || c.toNat = 0x7F

/-- The text with every line ended by a line feed alone; none if a carriage return stands
elsewhere. -/
def unifyLines : List Char -> Option (List Char)
  | [] => some []
  | '\r' :: '\n' :: rest => (unifyLines rest).map ('\n' :: ·)
  | c :: rest => if c = '\r' then none else (unifyLines rest).map (c :: ·)

/-! ## Finding the end of a string -/

def spanBasic? : List Char -> Option (List Char × List Char)
  | [] => none
  | '"' :: rest => some ([], rest)
  | '\\' :: c :: rest => (spanBasic? rest).map fun (raw, rest) => ('\\' :: c :: raw, rest)
  | c :: rest =>
      if c = '\n' then none else (spanBasic? rest).map fun (raw, rest) => (c :: raw, rest)

/-- A string of several lines. One or two quotes may stand in front of the closing three. -/
def spanLongBasic? : List Char -> Option (List Char × List Char)
  | [] => none
  | '"' :: '"' :: '"' :: '"' :: '"' :: rest => some (['"', '"'], rest)
  | '"' :: '"' :: '"' :: '"' :: rest => some (['"'], rest)
  | '"' :: '"' :: '"' :: rest => some ([], rest)
  | '\\' :: c :: rest => (spanLongBasic? rest).map fun (raw, rest) => ('\\' :: c :: raw, rest)
  | c :: rest => (spanLongBasic? rest).map fun (raw, rest) => (c :: raw, rest)

def spanLiteral? : List Char -> Option (List Char × List Char)
  | [] => none
  | '\'' :: rest => some ([], rest)
  | c :: rest =>
      if c = '\n' then none else (spanLiteral? rest).map fun (raw, rest) => (c :: raw, rest)

def spanLongLiteral? : List Char -> Option (List Char × List Char)
  | [] => none
  | '\'' :: '\'' :: '\'' :: '\'' :: '\'' :: rest => some (['\'', '\''], rest)
  | '\'' :: '\'' :: '\'' :: '\'' :: rest => some (['\''], rest)
  | '\'' :: '\'' :: '\'' :: rest => some ([], rest)
  | c :: rest => (spanLongLiteral? rest).map fun (raw, rest) => (c :: raw, rest)

/-! ## Escapes -/

def dropFirstLineFeed : List Char -> List Char
  | '\n' :: rest => rest
  | cs => cs

/-- A backslash at the end of a line takes the line end and all blanks after it with it. -/
def joinLines (skipping : Bool) : List Char -> List Char
  | [] => []
  | c :: rest =>
      if skipping && isBlank c then joinLines true rest
      else if c = '\\' then
        if (skipSpace rest).head? = some '\n' then joinLines true rest
        else
          match rest with
          | d :: rest => '\\' :: d :: joinLines false rest
          | [] => ['\\']
      else c :: joinLines false rest

def simpleEscape? (c : Char) : Option Char :=
  match c with
  | 'b' => some '\x08'
  | 't' => some '\t'
  | 'n' => some '\n'
  | 'f' => some '\x0c'
  | 'r' => some '\r'
  | '"' => some '"'
  | '\\' => some '\\'
  | _ => none

/-- The character with a code point that is given in hexadecimal digits; none for a surrogate
and beyond the last code point. -/
def hexChar? (digits : List Char) : Option Char := do
  let n ← digits.foldlM (fun n c => (Json.Draft.hexValue? c).map (16 * n + ·)) 0
  if n < 0xD800 ∨ (0xDFFF < n ∧ n < 0x110000) then some (Char.ofNat n) else none

def unescape? : List Char -> Option (List Char)
  | [] => some []
  | '\\' :: 'u' :: a :: b :: c :: d :: rest => do
      some ((← hexChar? [a, b, c, d]) :: (← unescape? rest))
  | '\\' :: 'U' :: a :: b :: c :: d :: e :: f :: g :: h :: rest => do
      some ((← hexChar? [a, b, c, d, e, f, g, h]) :: (← unescape? rest))
  | '\\' :: c :: rest => do some ((← simpleEscape? c) :: (← unescape? rest))
  | c :: rest => if c = '\\' ∨ isControl c then none else (unescape? rest).map (c :: ·)

/-! ## Strings -/

def plain? (raw : List Char) : Option (List Char) :=
  if raw.any isControl then none else some raw

def readShortString? : List Char -> Option (String × List Char)
  | '"' :: rest => do
      let (raw, rest) ← spanBasic? rest
      some (String.ofList (← unescape? raw), rest)
  | '\'' :: rest => do
      let (raw, rest) ← spanLiteral? rest
      some (String.ofList (← plain? raw), rest)
  | _ => none

def readString? : List Char -> Option (String × List Char)
  | '"' :: '"' :: '"' :: rest => do
      let (raw, rest) ← spanLongBasic? rest
      some (String.ofList (← unescape? (joinLines false (dropFirstLineFeed raw))), rest)
  | '\'' :: '\'' :: '\'' :: rest => do
      let (raw, rest) ← spanLongLiteral? rest
      some (String.ofList (← plain? (dropFirstLineFeed raw)), rest)
  | cs => readShortString? cs

/-! ## Keys -/

def isBare (c : Char) : Bool :=
  c.isAlphanum || c = '_' || c = '-'

def readKeyPart? (cs : List Char) : Option (String × List Char) :=
  match cs with
  | '"' :: _ => readShortString? cs
  | '\'' :: _ => readShortString? cs
  | _ =>
      let word := cs.takeWhile isBare
      if word = [] then none else some (String.ofList word, cs.dropWhile isBare)

def readKey? : Nat -> List Char -> Option (List String × List Char)
  | 0, _ => none
  | fuel + 1, cs => do
      let (part, rest) ← readKeyPart? (skipSpace cs)
      match skipSpace rest with
      | '.' :: rest => do
          let (parts, rest) ← readKey? fuel rest
          some (part :: parts, rest)
      | rest => some ([part], rest)

end Toml
end RobotConsole
