import RobotConsole.Toml.Scalar

/-!
# TOML documents

A document is read as one object. No key may be given twice, and no table may be
defined twice: a table remembers how it came to be, and that says what may still
be added to it.
-/

namespace RobotConsole
namespace Toml

/-! ## Tables under construction -/

inductive TableOrigin where
  /-- Named only as a part of the header of another table. -/
  | implied
  | dotted
  | headed
  deriving DecidableEq, Repr

inductive Node where
  /-- A value, to which nothing can be added. -/
  | value (v : Json)
  | table (origin : TableOrigin) (entries : List (String × Node))
  | tables (items : List (List (String × Node)))
  deriving Inhabited

abbrev Entries := List (String × Node)

def alter? (key : String) (f : Option Node -> Option Node) : Entries -> Option Entries
  | [] => do some [(key, ← f none)]
  | (k, node) :: rest =>
      if k = key then do some ((k, ← f (some node)) :: rest)
      else do some ((k, node) :: (← alter? key f rest))

/-- Whether keys with points may lead through a table. The last one they lead to must have been
made by such keys itself. -/
def extensible (origin : TableOrigin) (isLast : Bool) : Bool :=
  if isLast then origin = .dotted else origin ≠ .headed

def onLast? (f : Entries -> Option Entries) (items : List Entries) : Option (List Entries) :=
  match items.getLast? with
  | none => none
  | some last => do some (items.dropLast ++ [← f last])

def underHeader? : List String -> (Entries -> Option Entries) -> Entries -> Option Entries
  | [], f, entries => f entries
  | part :: parts, f, entries =>
      alter? part (fun
        | none => do some (.table .implied (← underHeader? parts f []))
        | some (.table origin inner) => do some (.table origin (← underHeader? parts f inner))
        | some (.tables items) => do some (.tables (← onLast? (underHeader? parts f) items))
        | some (.value _) => none) entries

def assign? : List String -> Json -> Entries -> Option Entries
  | [], _, _ => none
  | [part], v, entries =>
      alter? part (fun
        | none => some (.value v)
        | some _ => none) entries
  | part :: parts, v, entries =>
      alter? part (fun
        | none => do some (.table .dotted (← assign? parts v []))
        | some (.table origin inner) =>
            if extensible origin (parts.length = 1) then do
              some (.table origin (← assign? parts v inner))
            else none
        | some _ => none) entries

/-- The table of a header. One that was only implied so far may get its header now. -/
def openTable? (path : List String) (root : Entries) : Option Entries :=
  match path.getLast? with
  | none => none
  | some name =>
      underHeader? path.dropLast (alter? name fun
        | none => some (.table .headed [])
        | some (.table .implied inner) => some (.table .headed inner)
        | some _ => none) root

def openItem? (path : List String) (root : Entries) : Option Entries :=
  match path.getLast? with
  | none => none
  | some name =>
      underHeader? path.dropLast (alter? name fun
        | none => some (.tables [[]])
        | some (.tables items) => some (.tables (items ++ [[]]))
        | some _ => none) root

mutual

def Node.toJson : Node -> Json
  | .value v => v
  | .table _ entries => .object (entriesToJson entries)
  | .tables items => .array (itemsToJson items)

def entriesToJson : Entries -> List (String × Json)
  | [] => []
  | (key, node) :: rest => (key, node.toJson) :: entriesToJson rest

def itemsToJson : List Entries -> List Json
  | [] => []
  | entries :: rest => .object (entriesToJson entries) :: itemsToJson rest

end

/-! ## Values -/

def skipComment? (cs : List Char) : Option (List Char) :=
  if (cs.takeWhile (· ≠ '\n')).any isControl then none else some (cs.dropWhile (· ≠ '\n'))

def skipLines? : Nat -> List Char -> Option (List Char)
  | 0, _ => none
  | fuel + 1, cs =>
      match cs.dropWhile isBlank with
      | '#' :: rest => do skipLines? fuel (← skipComment? rest)
      | rest => some rest

mutual

def readValue? : Nat -> List Char -> Option (Json × List Char)
  | 0, _ => none
  | fuel + 1, cs =>
      match cs with
      | '"' :: _ => (readString? cs).map fun (s, rest) => (.string s, rest)
      | '\'' :: _ => (readString? cs).map fun (s, rest) => (.string s, rest)
      | '[' :: rest => do
          let (items, rest) ← readItems? fuel rest
          some (.array items, rest)
      | '{' :: rest =>
          match skipSpace rest with
          | '}' :: rest => some (.object [], rest)
          | rest => do
              let (entries, rest) ← readMembers? fuel [] rest
              some (.object (entriesToJson entries), rest)
      | _ =>
          let (word, rest) := spanWord cs
          (wordValue? word).map fun v => (v, rest)

/-- The items of an array up to its bracket. A comma may follow the last one. -/
def readItems? : Nat -> List Char -> Option (List Json × List Char)
  | 0, _ => none
  | fuel + 1, cs => do
      match ← skipLines? (cs.length + 1) cs with
      | ']' :: rest => some ([], rest)
      | cs => do
          let (item, rest) ← readValue? fuel cs
          match ← skipLines? (rest.length + 1) rest with
          | ']' :: rest => some ([item], rest)
          | ',' :: rest => do
              let (items, rest) ← readItems? fuel rest
              some (item :: items, rest)
          | _ => none

def readMembers? : Nat -> Entries -> List Char -> Option (Entries × List Char)
  | 0, _, _ => none
  | fuel + 1, entries, cs => do
      let (key, rest) ← readKey? (cs.length + 1) cs
      let rest ← expect? '=' rest
      let (v, rest) ← readValue? fuel (skipSpace rest)
      let entries ← assign? key v entries
      match skipSpace rest with
      | '}' :: rest => some (entries, rest)
      | ',' :: rest => readMembers? fuel entries rest
      | _ => none

end

/-! ## Documents -/

structure Progress where
  root : Entries := []
  header : List String := []

def endLine? (cs : List Char) : Option (List Char) :=
  match skipSpace cs with
  | [] => some []
  | '\n' :: rest => some rest
  | '#' :: rest => skipComment? rest
  | _ => none

def readStatement? (p : Progress) (cs : List Char) : Option (Progress × List Char) :=
  match cs with
  | '[' :: '[' :: rest => do
      let (path, rest) ← readKey? (rest.length + 1) rest
      let rest ← expect? ']' rest
      let rest ← expect? ']' rest
      some (⟨← openItem? path p.root, path⟩, rest)
  | '[' :: rest => do
      let (path, rest) ← readKey? (rest.length + 1) rest
      let rest ← expect? ']' rest
      some (⟨← openTable? path p.root, path⟩, rest)
  | _ => do
      let (key, rest) ← readKey? (cs.length + 1) cs
      let rest ← expect? '=' rest
      let (v, rest) ← readValue? (rest.length + 1) (skipSpace rest)
      some ({ p with root := ← underHeader? p.header (assign? key v) p.root }, rest)

def readStatements? : Nat -> Progress -> List Char -> Option Progress
  | 0, _, _ => none
  | fuel + 1, p, cs => do
      match ← skipLines? (cs.length + 1) cs with
      | [] => some p
      | cs => do
          let (p, rest) ← readStatement? p cs
          readStatements? fuel p (← endLine? rest)

def read? (cs : List Char) : Option (List (String × Json)) := do
  let cs ← unifyLines cs
  let p ← readStatements? (cs.length + 1) {} cs
  some (entriesToJson p.root)

end Toml
end RobotConsole
