import RobotConsole.Files
import RobotConsole.Settings.Convert
import RobotConsole.Settings.Environment
import RobotConsole.Toml.Document

/-!
# Loading settings

Settings come from their defaults, from a file and from the environment, in this
order. The file is TOML or JSON, as the ending of its name says; other formats are
unknown here, whatever their names. Of several faults the first one in the order of
the sections and slots is reported.
-/

namespace RobotConsole

inductive SettingsFormat where
  | toml
  | json
  deriving DecidableEq, Repr

inductive LoadError where
  | noFile (path : String)
  | unknownFormat (path : String)
  | malformed (path : String)
  | convert (error : ConvertError)
  | invalid (failure : Failure)
  deriving DecidableEq, Repr

namespace LoadError

def failure : LoadError -> Failure
  | noFile path => .settings ("configuration file \"" ++ path ++ "\" not found")
  | unknownFormat path =>
      .settings ("configuration file \"" ++ path ++ "\" is not of a registered file format")
  | malformed path => .settings ("malformed text in " ++ path)
  | convert (.unusable name) => .settings ("unusable value for " ++ name)
  | convert (.duration e) => .settings (e.message?.getD "duration out of range")
  | invalid failure => failure

/-- Whether the program stops instead of reporting the fault. -/
def isFatal : LoadError -> Bool
  | convert (.duration e) => e.isFatal
  | _ => false

end LoadError

namespace Settings

/-! ## Files -/

/-- The ending of a file's name: what follows its last point, unless that is its first letter. -/
def extension? (path : String) : Option String :=
  let name := ((Text.splitAll '/' path.toList).getLast?).getD []
  let pieces := Text.splitAll '.' name
  if pieces.length ≤ 1 ∨ pieces.dropLast = [[]] then none
  else (pieces.getLast?).map String.ofList

def formats : List (String × SettingsFormat) :=
  [("toml", .toml), ("json", .json)]

/-- The file that is meant by a path: the one that is there, or one with an ending added. -/
def findFile (files : FileTree) (path : String) :
    Except LoadError (String × SettingsFormat × List UInt8) :=
  match files.readBytes path with
  | .ok bytes =>
      match (extension? path).bind fun ending => formats.lookup ending with
      | some format => .ok (path, format, bytes)
      | none => .error (.unknownFormat path)
  | .error _ =>
      let found := formats.findSome? fun (ending, format) =>
        let candidate := path ++ "." ++ ending
        (files.readBytes candidate).toOption.map fun bytes => (candidate, format, bytes)
      match found with
      | some file => .ok file
      | none => .error (.noFile path)

/-- A JSON file has to hold an object. Its numbers are those that readings have. -/
def readJson? (cs : List Char) : Option SettingLayer :=
  match Wire.decodeChars Wire.decodeReading cs with
  | .ok (.map entries) => some (Reading.entriesToJson entries)
  | _ => none

def readLayer? (format : SettingsFormat) (cs : List Char) : Option SettingLayer :=
  match format with
  | .toml => Toml.read? cs
  | .json => readJson? cs

def dropByteOrderMark : List Char -> List Char
  | '\uFEFF' :: rest => rest
  | cs => cs

def fileLayer (files : FileTree) (path : String) : Except LoadError SettingLayer := do
  let (path, format, bytes) ← findFile files path
  match Text.decodeUtf8 bytes with
  | .error _ => .error (.malformed path)
  | .ok cs =>
      match readLayer? format (dropByteOrderMark cs) with
      | some layer => .ok layer
      | none => .error (.malformed path)

/-! ## Loading -/

def ofLayers (layers : List SettingLayer) : Except LoadError Settings := do
  let s ← (convert (SettingLayer.merge layers)).mapError .convert
  s.validate.mapError .invalid
  .ok s

def load (files : FileTree) (env : Environment) (path? : Option String) :
    Except LoadError Settings := do
  let fileLayers ←
    match path? with
    | some path => do .ok [← fileLayer files path]
    | none => .ok []
  ofLayers (fileLayers ++ [env.layer])

end Settings
end RobotConsole
