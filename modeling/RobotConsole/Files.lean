import RobotConsole.Failure
import RobotConsole.Text.Lines
import RobotConsole.Text.Utf8

/-!
# Files

A tree of files and directories below a working directory. Paths are resolved
step by step, so that of several faults in a path the first one is reported.
-/

namespace RobotConsole

inductive FileError where
  | notFound
  | notDirectory
  | isDirectory
  | nameTooLong
  | badPath
  | notText
  deriving DecidableEq, Repr

def FileError.message : FileError -> String
  | notFound => "No such file or directory (os error 2)"
  | notDirectory => "Not a directory (os error 20)"
  | isDirectory => "Is a directory (os error 21)"
  | nameTooLong => "File name too long (os error 36)"
  | badPath => "file name contained an unexpected NUL byte"
  | notText => "stream did not contain valid UTF-8"

inductive FileNode where
  | file (bytes : List UInt8)
  | directory
  deriving DecidableEq, Repr

/-- A place in the tree: the names on the way from the working directory. -/
abbrev FilePlace := List String

structure FileTree where
  nodes : List (FilePlace × FileNode) := []

namespace FileTree

def nameLimit : Nat := 255

def pathLimit : Nat := 4096

def node? (t : FileTree) (place : FilePlace) : Option FileNode :=
  if place = [] then some .directory else t.nodes.lookup place

def put (t : FileTree) (place : FilePlace) (node : FileNode) : FileTree :=
  ⟨(place, node) :: t.nodes.filter fun entry => entry.1 ≠ place⟩

/-! ## Resolving paths -/

/-- Whether a step names no entry of a directory. -/
def isSelf (step : String) : Bool :=
  step = "" || step = "." || step = ".."

def enter (t : FileTree) (place : FilePlace) (step : String) : Except FileError FilePlace :=
  if step = "" ∨ step = "." then .ok place
  else if step = ".." then .ok place.dropLast
  else if nameLimit < step.utf8ByteSize then .error .nameTooLong
  else
    match t.node? (place ++ [step]) with
    | none => .error .notFound
    | some (.file _) => .error .notDirectory
    | some .directory => .ok (place ++ [step])

/-- The steps of a path. A path that ends with a separator has an empty last step. -/
def steps (path : String) : List String :=
  (Text.splitAll '/' path.toList).map String.ofList

def checkPath (path : String) : Except FileError Unit :=
  if '\x00' ∈ path.toList then .error .badPath
  else if path = "" then .error .notFound
  else if pathLimit ≤ path.utf8ByteSize then .error .nameTooLong
  else .ok ()

def locate (t : FileTree) (path : String) : Except FileError (FilePlace × String) := do
  checkPath path
  let all := steps path
  let place ← all.dropLast.foldlM t.enter []
  .ok (place, all.getLast?.getD "")

/-! ## Reading and writing -/

def readBytes (t : FileTree) (path : String) : Except FileError (List UInt8) := do
  let (place, name) ← t.locate path
  if isSelf name then .error .isDirectory
  else if nameLimit < name.utf8ByteSize then .error .nameTooLong
  else
    match t.node? (place ++ [name]) with
    | none => .error .notFound
    | some .directory => .error .isDirectory
    | some (.file bytes) => .ok bytes

def readText (t : FileTree) (path : String) : Except FileError String := do
  match Text.decodeUtf8 (← t.readBytes path) with
  | .ok cs => .ok (String.ofList cs)
  | .error _ => .error .notText

/-- A path that ends with a separator names a directory, whether it is there or not. -/
def writeBytes (t : FileTree) (path : String) (bytes : List UInt8) :
    Except FileError FileTree := do
  checkPath path
  let all := steps path
  if all.getLast? = some "" then
    let _ ← all.dropLast.dropLast.foldlM t.enter []
    .error .isDirectory
  else
    let (place, name) ← t.locate path
    if isSelf name then .error .isDirectory
    else if nameLimit < name.utf8ByteSize then .error .nameTooLong
    else
      match t.node? (place ++ [name]) with
      | some .directory => .error .isDirectory
      | _ => .ok (t.put (place ++ [name]) (.file bytes))

def writeText (t : FileTree) (path content : String) : Except FileError FileTree :=
  t.writeBytes path (Text.encodeUtf8 content)

/-! ## Setting up a tree -/

/-- The tree with a directory at a place, and with those above it. -/
def withDirectory (t : FileTree) (place : FilePlace) : FileTree :=
  (List.range place.length).foldl (fun t (n : Nat) =>
    let place := place.take (n + 1)
    if (t.node? place).isNone then t.put place .directory else t) t

def placeOf (path : String) : FilePlace :=
  (steps path).filter fun step => !isSelf step

def makeDirectory (t : FileTree) (path : String) : FileTree :=
  t.withDirectory (placeOf path)

def withFile (t : FileTree) (path : String) (bytes : List UInt8) : FileTree :=
  let place := placeOf path
  (t.withDirectory place.dropLast).put place (.file bytes)

end FileTree

def FileError.failure (e : FileError) : Failure :=
  .file e.message

end RobotConsole
