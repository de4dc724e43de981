import I2cTopology.Text.Pieces

/-!
# Lines

A line ends with a line feed, and a carriage return right before that line feed belongs to the line
ending. A last line needs no ending, and then it keeps a trailing carriage return.
-/

namespace I2cTopology
namespace Text

/-- The text without one trailing carriage return. -/
def dropReturn (line : List Char) : List Char :=
  if line.getLast? = some '\r' then line.dropLast else line

/-- Turns the pieces between line feeds into lines: every piece but the last was ended by a line
feed, and an empty last piece is no line. -/
def linesOfPieces : List (List Char) → List (List Char)
  | [] => []
  | [last] => if last.isEmpty then [] else [last]
  | piece :: next :: others => dropReturn piece :: linesOfPieces (next :: others)

/-- The lines of a text. -/
def lines (text : List Char) : List (List Char) :=
  linesOfPieces (pieces '\n' text)

/-- The first line of a text, none if it is empty. -/
def firstLine? (text : String) : Option String :=
  match (lines text.toList).head? with
  | some (c :: rest) => some (String.ofList (c :: rest))
  | _ => none

end Text
end I2cTopology
