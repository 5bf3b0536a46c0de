import RobotConsole.Console.Basic
import RobotConsole.Files
import RobotConsole.Json.Printer
import RobotConsole.Wire.Mode
import RobotConsole.Wire.Telemetry

/-!
# Exporting the state

The state of a session as a JSON text: the link, the latest reading of every
parameter, and a summary. All members stand in alphabetical order.
-/

namespace RobotConsole
namespace SessionState

def linkToJson (link : Link Float) : Json :=
  .object
    [("alliance", (link.alliance.map Alliance.toJson).getD .null),
      ("error", .bool link.errorFlag),
      ("mode", link.mode.toJson),
      ("relative_rate", .float link.relativeRate),
      ("status", .string link.status.title)]

def latestReadings (p : Peripheral) : List (String × Json) :=
  p.parameters.filterMap fun (name, timeline) =>
    timeline.latest?.map fun sample => (name, sample.value.toJson)

def peripheralToJson (p : Peripheral) : Json :=
  .object
    [("id", p.id.device.toJson),
      ("kind", p.id.kind.toJson),
      ("params", .object (latestReadings p)),
      ("type", .string p.id.type.name)]

def toJson (s : SessionState) : Json :=
  let count (kind : DeviceKind) : Json := .integer (s.peripherals.ofKind kind).length
  .object
    [("connection", linkToJson s.link),
      ("peripherals", .array (s.peripherals.sorted.map peripheralToJson)),
      ("summary", .object
        [("gamepads", count .gamepad),
          ("log_events", .integer s.logs.size),
          ("smart_devices", count .smartDevice),
          ("total_peripherals", .integer s.peripherals.size)])]

end SessionState

def Console.exportState (c : Console) (files : FileTree) (path : String) :
    Except FileError (Console × FileTree) := do
  let files ← files.writeText path c.state.toJson.pretty
  .ok (c.say (.info ("Exported session state to " ++ path)), files)

end RobotConsole
