import RoutineAtlas.Text.Digits

/-!
# Sets of characters

Sets of characters that no rule describes are listed by ranges of their numbers. A table writes the
ranges in hexadecimal with blanks between them: `300-36f` is a range, and `5bf` a single character.
-/

namespace RoutineAtlas

/-- The characters with numbers from `first` to `last`. -/
structure CharRange where
  first : Nat
  last : Nat
deriving DecidableEq, Repr

namespace CharRange

/-- The range holds a character. -/
def contains (r : CharRange) (c : Char) : Bool :=
  r.first ≤ c.toNat && c.toNat ≤ r.last

/-- The range that a word of a table writes. -/
def ofWord (word : Text) : CharRange :=
  match Text.piecesAt '-' word with
  | [first, last] => ⟨Text.hexValue first, Text.hexValue last⟩
  | _ => ⟨Text.hexValue word, Text.hexValue word⟩

end CharRange

/-- A set of characters, by the ranges that it is made of. -/
structure CharSet where
  ranges : List CharRange
deriving DecidableEq, Repr

namespace CharSet

/-- The set holds a character. -/
def contains (s : CharSet) (c : Char) : Bool :=
  s.ranges.any fun r => r.contains c

/-- The words of the lines of a table. -/
def words (lines : List String) : List Text :=
  lines.flatMap fun line => (Text.piecesAt ' ' line.toList).filter fun word => !word.isEmpty

/-- The set that the lines of a table write. -/
def ofLines (lines : List String) : CharSet :=
  ⟨(words lines).map CharRange.ofWord⟩

end CharSet

end RoutineAtlas
