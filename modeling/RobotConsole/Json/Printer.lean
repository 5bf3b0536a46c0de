import RobotConsole.Json.Basic
import RobotConsole.Numeric.Shortest

/-!
# Writing JSON

Two layouts: all on one line, and indented by two spaces. In both a float that
is not finite is written `null`, and a string escapes only quotes, backslashes
and control characters.
-/

namespace RobotConsole
namespace Json

/-! ## Strings -/

def hexPair (n : Nat) : List Char :=
  [Nat.digitChar (n / 16), Nat.digitChar (n % 16)]

def escape (c : Char) : List Char :=
  if c = '"' then ['\\', '"']
  else if c = '\\' then ['\\', '\\']
  else if 0x20 ≤ c.toNat then [c]
  else if c = '\n' then ['\\', 'n']
  else if c = '\r' then ['\\', 'r']
  else if c = '\t' then ['\\', 't']
  else if c.toNat = 0x08 then ['\\', 'b']
  else if c.toNat = 0x0C then ['\\', 'f']
  else '\\' :: 'u' :: '0' :: '0' :: hexPair c.toNat

def quoted (s : String) : List Char :=
  '"' :: s.toList.flatMap escape ++ ['"']

/-! ## Values -/

/-- How a finite float is spelled. -/
abbrev FloatStyle := Float -> String

def floatChars (style : FloatStyle) (x : Float) : List Char :=
  if Numeric.isFinite x then (style x).toList else "null".toList

mutual

def compactChars (style : FloatStyle) : Json -> List Char
  | null => "null".toList
  | bool b => (if b then "true" else "false").toList
  | integer n => (toString n).toList
  | float x => floatChars style x
  | string s => quoted s
  | array items => '[' :: compactItems style items ++ [']']
  | object members => '{' :: compactMembers style members ++ ['}']

def compactItems (style : FloatStyle) : List Json -> List Char
  | [] => []
  | [item] => compactChars style item
  | item :: rest => compactChars style item ++ ',' :: compactItems style rest

def compactMembers (style : FloatStyle) : List (String × Json) -> List Char
  | [] => []
  | [(name, value)] => quoted name ++ ':' :: compactChars style value
  | (name, value) :: rest =>
      quoted name ++ ':' :: compactChars style value ++ ',' :: compactMembers style rest

end

def newline (depth : Nat) : List Char :=
  '\n' :: List.replicate (2 * depth) ' '

mutual

def prettyChars (style : FloatStyle) (depth : Nat) : Json -> List Char
  | null => "null".toList
  | bool b => (if b then "true" else "false").toList
  | integer n => (toString n).toList
  | float x => floatChars style x
  | string s => quoted s
  | array [] => "[]".toList
  | array items => '[' :: prettyItems style (depth + 1) items ++ newline depth ++ [']']
  | object [] => "\x7b\x7d".toList
  | object members => '{' :: prettyMembers style (depth + 1) members ++ newline depth ++ ['}']

def prettyItems (style : FloatStyle) (depth : Nat) : List Json -> List Char
  | [] => []
  | [item] => newline depth ++ prettyChars style depth item
  | item :: rest =>
      newline depth ++ prettyChars style depth item ++ ',' :: prettyItems style depth rest

def prettyMembers (style : FloatStyle) (depth : Nat) : List (String × Json) -> List Char
  | [] => []
  | [(name, value)] =>
      newline depth ++ quoted name ++ ':' :: ' ' :: prettyChars style depth value
  | (name, value) :: rest =>
      newline depth ++ quoted name ++ ':' :: ' ' :: prettyChars style depth value ++
        ',' :: prettyMembers style depth rest

end

def compact (j : Json) (style : FloatStyle := Numeric.literalText) : String :=
  String.ofList (compactChars style j)

def pretty (j : Json) (style : FloatStyle := Numeric.literalText) : String :=
  String.ofList (prettyChars style 0 j)

end Json
end RobotConsole
