import RobotConsole.Settings.Basic

/-!
# The shape of written settings

Settings are written as sections of named slots. What a slot holds is one of four
types; every format that settings are written in says for itself how values of
these types look.
-/

namespace RobotConsole

inductive SettingType where
  | duration
  | flag
  | text
  | port
  deriving DecidableEq, Repr

abbrev SettingType.Value : SettingType -> Type
  | duration => Duration
  | flag => Bool
  | text => String
  | port => Nat

structure SettingSlot where
  name : String
  type : SettingType
  set : Settings -> type.Value -> Settings

structure SettingSection where
  name : String
  slots : List SettingSlot

namespace Settings

def healthSection : SettingSection where
  name := "health"
  slots :=
    [⟨"tick_interval", .duration, fun s d => { s with health.tickInterval := d }⟩,
      ⟨"expected_interval", .duration, fun s d => { s with health.expectedInterval := d }⟩,
      ⟨"disconnect_timeout", .duration, fun s d => { s with health.disconnectTimeout := d }⟩]

def gateSection : SettingSection where
  name := "gate"
  slots := [⟨"timeout", .duration, fun s d => { s with gate.timeout := d }⟩]

def editorSection : SettingSection where
  name := "editor"
  slots :=
    [⟨"strip_trailing_whitespace", .flag, fun s b =>
        { s with editor.stripTrailingWhitespace := b }⟩,
      ⟨"ensure_trailing_newline", .flag, fun s b =>
        { s with editor.ensureTrailingNewline := b }⟩]

def controlSection : SettingSection where
  name := "control"
  slots := [⟨"open_log_on_run", .flag, fun s b => { s with control.openLogOnRun := b }⟩]

def remoteSection : SettingSection where
  name := "remote"
  slots :=
    [⟨"host", .text, fun s t => { s with remote.host := t }⟩,
      ⟨"port", .port, fun s n => { s with remote.port := n }⟩,
      ⟨"user", .text, fun s t => { s with remote.user := t }⟩,
      ⟨"code_path", .text, fun s t => { s with remote.codePath := t }⟩]

/-- All sections, in the order in which an array gives them. -/
def sections : List SettingSection :=
  [healthSection, gateSection, editorSection, controlSection, remoteSection]

end Settings
end RobotConsole
