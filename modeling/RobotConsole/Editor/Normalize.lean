import RobotConsole.Settings.Basic
import RobotConsole.Text.Lines

/-!
# Normalizing saved text

What the editor does to a text when it is saved: the spaces and tabs at the end
of each line go, and the text ends with a line feed, as the settings say.
-/

namespace RobotConsole
namespace Editor

def isTrailing (c : Char) : Bool :=
  c = ' ' || c = '\t'

def stripLine (line : List Char) : List Char :=
  (line.reverse.dropWhile isTrailing).reverse

/-- The text with each of its lines stripped; only line feeds separate lines. -/
def stripLines (cs : List Char) : List Char :=
  ['\n'].intercalate ((Text.splitAll '\n' cs).map stripLine)

def closeLastLine (cs : List Char) : List Char :=
  if cs = [] ∨ cs.getLast? = some '\n' then cs else cs ++ ['\n']

def normalizeChars (settings : EditorSettings) (cs : List Char) : List Char :=
  let stripped := if settings.stripTrailingWhitespace then stripLines cs else cs
  if settings.ensureTrailingNewline then closeLastLine stripped else stripped

def normalize (settings : EditorSettings) (content : String) : String :=
  String.ofList (normalizeChars settings content.toList)

end Editor
end RobotConsole
