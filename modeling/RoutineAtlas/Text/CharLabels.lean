import RoutineAtlas.Text.CharSet

/-!
# Labels of characters

What kind of character some characters are. A table writes ranges of characters, each with a label
after a `=`: `300-314=230`.
-/

namespace RoutineAtlas

/-- Ranges of characters with a label each. -/
structure CharLabels where
  labels : List (CharRange × Text)
deriving DecidableEq, Repr

namespace CharLabels

/-- The label of a character, if it has one. -/
def find? (l : CharLabels) (c : Char) : Option Text :=
  (l.labels.find? fun entry => entry.1.contains c).map (·.2)

/-- The range and the label that a word of a table writes. -/
def ofWord (word : Text) : CharRange × Text :=
  (.ofWord (word.takeWhile (· != '=')), (word.dropWhile (· != '=')).drop 1)

/-- The labels that the lines of a table write. -/
def ofLines (lines : List String) : CharLabels :=
  ⟨(CharSet.words lines).map ofWord⟩

end CharLabels

end RoutineAtlas
