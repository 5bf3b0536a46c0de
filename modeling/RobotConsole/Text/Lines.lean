/-!
# Lines

A line ends with a line feed, in front of which may be a carriage return. The last
line may go without, and an empty piece after the last line feed is no line.
-/

namespace RobotConsole
namespace Text

/-- The pieces of a list between the places where `mark` stands. There is always at least one. -/
def splitAll {α : Type} [DecidableEq α] (mark : α) : List α -> List (List α)
  | [] => [[]]
  | x :: rest =>
      if x = mark then [] :: splitAll mark rest
      else
        match splitAll mark rest with
        | [] => [[x]]
        | piece :: pieces => (x :: piece) :: pieces

def dropReturn (line : List Char) : List Char :=
  if line.getLast? = some '\r' then line.dropLast else line

/-- The lines of a text, each without what ends it. -/
def lines (cs : List Char) : List (List Char) :=
  let pieces := splitAll '\n' cs
  let last := pieces.getLast?.getD []
  pieces.dropLast.map dropReturn ++ if last = [] then [] else [last]

end Text
end RobotConsole
