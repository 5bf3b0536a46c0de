import RobotConsole.Main
import RobotConsole.Rehearsal
import RobotConsole.Source.Channel
import RobotConsole.Source.Stream
import RobotConsole.Source.Supply
import RobotConsole.Wire.Settings
import RobotConsole.Proofs.Gate.Outcomes
import RobotConsole.Proofs.Editor.DialogAnswer
import RobotConsole.Proofs.Editor.Replacement
import RobotConsole.Proofs.Link.Sound
import RobotConsole.Proofs.Peripherals.Run
import RobotConsole.Proofs.Text.Lines
import RobotConsole.Proofs.Source.Stream
import RobotConsole.Proofs.Source.Delivery
import RobotConsole.Proofs.Source.Recording
import RobotConsole.Proofs.Link.Run
import RobotConsole.Proofs.Link.Silence
import RobotConsole.Proofs.Json.Strings
import RobotConsole.Proofs.Json.Text
import RobotConsole.Proofs.Dict.Build
import RobotConsole.Proofs.Wire.Reading
import RobotConsole.Proofs.Device.Text
import RobotConsole.Proofs.Wire.Sound
import RobotConsole.Proofs.Json.Room
import RobotConsole.Proofs.Wire.Decode
import RobotConsole.Proofs.Wire.Decoded
import RobotConsole.Proofs.Wire.RoundTrip
import RobotConsole.Proofs.Numeric.Nearest
import RobotConsole.Proofs.Console.Calls
import RobotConsole.Proofs.Console.Deeds
import RobotConsole.Proofs.Console.Notices
import RobotConsole.Proofs.Editor.Guard
import RobotConsole.Proofs.Console.Link
import RobotConsole.Proofs.Console.ModeChanges
import RobotConsole.Proofs.Numeric.Seconds
import RobotConsole.Proofs.Console.Histories
import RobotConsole.Proofs.Console.Faults
import RobotConsole.Proofs.Console.Lanes
import RobotConsole.Proofs.Session.Pumping
import RobotConsole.Proofs.Session.Channel
import RobotConsole.Proofs.Source.Replay
import RobotConsole.Proofs.Source.Pace
import RobotConsole.Proofs.Source.Untimed
import RobotConsole.Proofs.Wire.Image
import RobotConsole.Proofs.Wire.AnyValue
import RobotConsole.Proofs.Editor.Saving
import RobotConsole.Proofs.Editor.DialogTable
import RobotConsole.Proofs.Link.Rate
import RobotConsole.Proofs.Editor.Normal
import RobotConsole.Proofs.Settings.Faults
import RobotConsole.Proofs.Numeric.Shortest
import RobotConsole.Proofs.Numeric.Products
import RobotConsole.Proofs.Numeric.Pointed
import RobotConsole.Proofs.Json.Numbers
import RobotConsole.Proofs.Json.Grammar
import RobotConsole.Proofs.Json.Literals
import RobotConsole.Proofs.Json.Indented
import RobotConsole.Proofs.Wire.Form
import RobotConsole.Proofs.Files
import RobotConsole.Proofs.Console.Snapshots
import RobotConsole.Proofs.Console.Export
import RobotConsole.Proofs.Link.Bounds
import RobotConsole.Proofs.Text.Trim
import RobotConsole.Proofs.Wire.DeviceNumbers
import RobotConsole.Proofs.Settings.Texts
import RobotConsole.Proofs.Peripherals.Listing
import RobotConsole.Proofs.Device.Parts
import RobotConsole.Proofs.Peripherals.TypeCodes
import RobotConsole.Proofs.Duration.Units
import RobotConsole.Proofs.Source.Offsets
