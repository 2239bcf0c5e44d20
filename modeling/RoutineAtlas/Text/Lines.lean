import RoutineAtlas.Text.Blank

/-!
# Source lines

A source file is read line by line. A line ends at a line feed, and a carriage return right before
the line feed (or at the very end of the file) belongs to the ending.
-/

namespace RoutineAtlas.Text

/-- A line without one carriage return at its end. -/
def withoutReturn (line : Text) : Text :=
  if line.getLast? == some '\r' then line.dropLast else line

/-- The lines of a source text; a text that ends in a line feed has an empty last line. -/
def sourceLines (t : Text) : List Text :=
  (t.piecesAt '\n').map withoutReturn

end RoutineAtlas.Text
