import RobotConsole.Export
import RobotConsole.Session
import RobotConsole.Settings.Load
import RobotConsole.Source.Recording

/-!
# The command line

The program runs a session on a recording or on a connection, for a given time or
until it is interrupted, and may export the state at the end. Arguments are
looked at from left to right; the first one that is wrong, or asks for help,
decides.
-/

namespace RobotConsole
namespace CommandLine

/-! ## Arguments -/

inductive OptionName where
  | connect
  | replay
  | config
  | runFor
  | exportTo
  deriving DecidableEq, Repr

def OptionName.all : List OptionName :=
  [.connect, .replay, .config, .runFor, .exportTo]

def OptionName.long : OptionName -> String
  | connect => "connect"
  | replay => "replay"
  | config => "config"
  | runFor => "run-for"
  | exportTo => "export"

def OptionName.short? : OptionName -> Option Char
  | connect => some 'c'
  | replay => some 'r'
  | exportTo => some 'e'
  | _ => none

def OptionName.isPath : OptionName -> Bool
  | replay => true
  | config => true
  | exportTo => true
  | _ => false

inductive Stop where
  | help
  | usage
  deriving DecidableEq, Repr

structure Parsed where
  values : List (OptionName × String) := []
  pending : Option OptionName := none
  ended : Bool := false

namespace Parsed

def give (p : Parsed) (name : OptionName) (value : String) : Except Stop Parsed :=
  if (p.values.lookup name).isSome ∨ (name.isPath ∧ value = "") then .error .usage
  else .ok { p with values := p.values ++ [(name, value)], pending := none }

def take (p : Parsed) (name : OptionName) : Option String -> Except Stop Parsed
  | some value => p.give name value
  | none => .ok { p with pending := some name }

def takeLong (p : Parsed) (word : List Char) : Except Stop Parsed :=
  let name := String.ofList (word.takeWhile (· ≠ '='))
  let value? :=
    match word.dropWhile (· ≠ '=') with
    | _ :: value => some (String.ofList value)
    | [] => none
  if p.pending.isSome then .error .usage
  else if name = "help" then .error (if value?.isSome then .usage else .help)
  else
    match OptionName.all.find? fun option => option.long = name with
    | some option => p.take option value?
    | none => .error .usage

def takeShort (p : Parsed) (letter : Char) (attached : List Char) : Except Stop Parsed :=
  let value? :=
    match attached with
    | [] => none
    | '=' :: value => some (String.ofList value)
    | value => some (String.ofList value)
  if p.pending.isSome then .error .usage
  else if letter = 'h' then .error .help
  else
    match OptionName.all.find? fun option => option.short? = some letter with
    | some option => p.take option value?
    | none => .error .usage

def takeValue (p : Parsed) (value : String) : Except Stop Parsed :=
  match p.pending with
  | some option => p.give option value
  | none => .error .usage

def step (p : Parsed) (arg : String) : Except Stop Parsed :=
  if p.ended then .error .usage
  else
    match arg.toList with
    | ['-', '-'] => .ok { p with ended := true }
    | '-' :: '-' :: word => p.takeLong word
    | '-' :: letter :: attached => p.takeShort letter attached
    | _ => p.takeValue arg

end Parsed

inductive Origin where
  | connection (address : String)
  | recording (path : String)
  deriving DecidableEq, Repr

structure Options where
  origin : Origin
  config : Option String := none
  runFor : Option String := none
  exportTo : Option String := none
  deriving DecidableEq, Repr

def parse (args : List String) : Except Stop Options := do
  let p ← args.foldlM Parsed.step {}
  if p.pending.isSome then .error .usage
  else
    let origin ←
      match p.values.lookup .connect, p.values.lookup .replay with
      | some address, none => .ok (Origin.connection address)
      | none, some path => .ok (.recording path)
      | _, _ => .error .usage
    .ok
      { origin
        config := p.values.lookup .config
        runFor := p.values.lookup .runFor
        exportTo := p.values.lookup .exportTo }

/-! ## Running -/

inductive Exit where
  | help
  | usage
  | aborted
  | failed (message : String)
  | done (output : String)
  deriving DecidableEq, Repr

namespace Exit

def code : Exit -> Nat
  | help => 0
  | usage => 2
  | aborted => 101
  | failed _ => 1
  | done _ => 0

def ofStop : Stop -> Exit
  | .help => help
  | .usage => usage

def ofLoadError (e : LoadError) : Exit :=
  if e.isFatal then aborted else failed "Failed to load settings"

def errorText? : Exit -> Option String
  | failed message => some ("Error: " ++ message)
  | _ => none

end Exit

structure Plan where
  session : Session RecordedSource
  limit : Option Duration
  exportTo : Option String

/-- What the options lead to. The settings are looked at first, then the time limit, and the
place where the events come from last. -/
def prepare (files : FileTree) (env : Environment) (o : Options) : Except Exit Plan := do
  let settings ← (Settings.load files env o.config).mapError Exit.ofLoadError
  let limit ←
    match o.runFor with
    | none => .ok none
    | some text =>
        match Duration.parse text with
        | .ok d => .ok (some d)
        | .error e => .error (.failed e.message)
  match o.origin with
  | .connection address => .error (.failed ("Failed to connect to " ++ address))
  | .recording path =>
      let file := (files.readBytes path).mapError FileError.message
      .ok
        { session := { console := .fresh settings, source := { path, file } }
          limit
          exportTo := o.exportTo }

def conclude (files : FileTree) (exportTo : Option String) (console : Console) :
    Exit × FileTree :=
  match exportTo with
  | none => (.done "", files)
  | some path =>
      match console.exportState files path with
      | .error e => (.failed e.message, files)
      | .ok (_, files) => (.done ("Exported session state to: " ++ path ++ "\n"), files)

/-- The milliseconds that a run takes, at least one, so that there is a tick: it ends at its
limit or when it is interrupted. -/
def Plan.length (p : Plan) (interrupted : Nat) : Nat :=
  match p.limit with
  | none => interrupted
  | some limit => min interrupted (max 1 limit.ceilMillis)

/-- The program on files and an environment, from a given instant on, until it is interrupted at
the latest. -/
def run (files : FileTree) (env : Environment) (start : Instant) (interrupted : Nat)
    (args : List String) : Exit × FileTree :=
  match parse args with
  | .error stop => (Exit.ofStop stop, files)
  | .ok options =>
      match prepare files env options with
      | .error exit => (exit, files)
      | .ok plan =>
          let session := plan.session.run start (plan.length interrupted)
          conclude files plan.exportTo session.console

end CommandLine
end RobotConsole
