import BinaryCoverage.Text.Blank

/-!
# Lines of a text

A line ends at a line feed, and a carriage return right before that line feed belongs to the line
end.  A last line without a line feed keeps its carriage return; an empty last line is no line.
-/

namespace BinaryCoverage.Text

/-- A terminated line without the carriage return of its line end. -/
def dropReturn (line : List Char) : List Char := (dropSuffix? ['\r'] line).getD line

/-- The lines among the stretches between line feeds, of which only the last is unterminated. -/
def linesOfPieces : List (List Char) → List (List Char)
  | [] => []
  | [last] => if last.isEmpty then [] else [last]
  -- Another piece follows, so that a line feed ended this one.
  | line :: rest => dropReturn line :: linesOfPieces rest

def lines (cs : List Char) : List (List Char) := linesOfPieces (pieces (· == '\n') cs)

/-- The text without the carriage returns at its end, however many there are. -/
def dropReturns (line : List Char) : List Char := (line.reverse.dropWhile (· == '\r')).reverse

end BinaryCoverage.Text
