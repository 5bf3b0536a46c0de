import RobotConsole.CommandLine
import Std.Time.Format

/-!
# The program

Hands files, environment and clock to the command line, and its output to the
terminal.
-/

namespace RobotConsole
namespace Program

def helpText : String :=
  "Track link health and peripheral telemetry of a robot controller\n\n" ++
  "Usage: robotconsole [OPTIONS] <--connect <ADDRESS>|--replay <FILE>>\n\n" ++
  "Options:\n" ++
  "  -c, --connect <ADDRESS>  Connect to the controller telemetry bridge (host:port)\n" ++
  "  -r, --replay <FILE>      Replay a recorded session (one JSON event a line)\n" ++
  "      --config <FILE>      Settings file; environment variables override it\n" ++
  "      --run-for <TIME>     Stop after this long, such as 30s or 500ms\n" ++
  "  -e, --export <FILE>      Export the final session state to a JSON file on exit\n" ++
  "  -h, --help               Print help"

def readEnvironment : IO Environment :=
  Environment.variableNames.filterMapM fun name => do
    return (← IO.getEnv name).map fun value => (name, value)

def addFile (files : FileTree) (path : String) : IO FileTree := do
  try
    let bytes ← IO.FS.readBinFile path
    return files.withFile path bytes.toList
  catch _ => return files

def readFiles (o : CommandLine.Options) : IO FileTree := do
  let configs :=
    match o.config with
    | some path => [path, path ++ ".toml", path ++ ".json"]
    | none => []
  let recordings :=
    match o.origin with
    | .recording path => [path]
    | .connection _ => []
  (configs ++ recordings).foldlM addFile {}

def wallNow : IO Int := do
  return (← Std.Time.Timestamp.now).toMillisecondsSinceUnixEpoch.val

def instantNow : IO Instant := do
  return ⟨← wallNow, ← IO.monoMsNow⟩

/-- Writes out what was said since the last time, but for details. -/
def report (s : Session RecordedSource) : IO (Session RecordedSource) := do
  for happening in s.console.happenings do
    match happening with
    | .said message =>
        if message.severity ≠ .debug then IO.eprintln message.line
    | _ => pure ()
  return s.mapConsole Console.withoutJournal

partial def beatUntil (s : Session RecordedSource) (start : Nat) (limit : Option Nat) (n : Nat) :
    IO (Session RecordedSource) := do
  let due := start + (Duration.mk (n * s.tickPeriod.nanos)).ceilMillis
  let now ← IO.monoMsNow
  let ends := (limit.map (start + ·)).getD (due + 1)
  if ends ≤ due then
    IO.sleep (UInt32.ofNat (ends - now))
    return s
  else
    IO.sleep (UInt32.ofNat (due - now))
    let s ← report (s.beat (← instantNow))
    beatUntil s start limit (n + 1)

def runPlan (plan : CommandLine.Plan) : IO CommandLine.Exit := do
  let start ← IO.monoMsNow
  let limit := plan.limit.map fun d => max 1 d.ceilMillis
  let session ← report plan.session.announce
  let session ← beatUntil session start limit 0
  let session ← report session.close
  match plan.exportTo with
  | none => return .done ""
  | some path =>
      try
        IO.FS.writeFile path session.console.state.toJson.pretty
        return .done ("Exported session state to: " ++ path ++ "\n")
      catch e => return .failed (toString e)

def run (args : List String) : IO CommandLine.Exit := do
  match CommandLine.parse args with
  | .error stop => return .ofStop stop
  | .ok options =>
      let files ← readFiles options
      match CommandLine.prepare files (← readEnvironment) options with
      | .error exit => return exit
      | .ok plan => runPlan plan

end Program
end RobotConsole

def main (args : List String) : IO UInt32 := do
  let exit ← RobotConsole.Program.run args
  match exit with
  | .help => IO.println RobotConsole.Program.helpText
  | .usage => IO.eprintln RobotConsole.Program.helpText
  | .done output => IO.print output
  | _ => pure ()
  match exit.errorText? with
  | some message => IO.eprintln message
  | none => pure ()
  return UInt32.ofNat exit.code
