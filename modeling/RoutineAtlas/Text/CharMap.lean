import RoutineAtlas.Text.CharSet

/-!
# Maps of characters

What some characters are replaced by. A table writes, in hexadecimal, the characters and after a
`>` the replacement of the first: `c0-d6>e0` is a run whose characters keep their distance from
their replacements, `100-12e:2>101` one of every second character, and `fb01>66.69` a character that
two replace.
-/

namespace RoutineAtlas

/-- Characters at equal distances with what replaces the first of them. -/
structure CharRun where
  range : CharRange
  step : Nat
  target : List Nat
deriving DecidableEq, Repr

namespace CharRun

/-- What replaces a character, if the run holds it. Where that is a single character, the
characters of the run keep their distances. -/
def find? (r : CharRun) (c : Char) : Option Text :=
  let distance := c.toNat - r.range.first
  if r.range.contains c && distance % r.step == 0 then
    match r.target with
    | [n] => some [Char.ofNat (n + distance)]
    | target => some (target.map Char.ofNat)
  else none

/-- The run that a word of a table writes. -/
def ofWord (word : Text) : CharRun :=
  let source := word.takeWhile (· != '>')
  let target := (word.dropWhile (· != '>')).drop 1
  let numbers := if target.isEmpty then [] else (Text.piecesAt '.' target).map Text.hexValue
  match Text.piecesAt ':' source with
  | [range, step] => ⟨.ofWord range, Text.hexValue step, numbers⟩
  | _ => ⟨.ofWord source, 1, numbers⟩

end CharRun

/-- What some characters are replaced by. -/
structure CharMap where
  runs : List CharRun
deriving DecidableEq, Repr

namespace CharMap

/-- What replaces a character, if it is replaced at all. -/
def find? (m : CharMap) (c : Char) : Option Text :=
  m.runs.findSome? fun r => r.find? c

/-- The first character that a text replaces. -/
def source? (m : CharMap) (t : Text) : Option Char :=
  (m.runs.find? fun r => r.target == t.map Char.toNat).map fun r => Char.ofNat r.range.first

/-- The map that the lines of a table write. -/
def ofLines (lines : List String) : CharMap :=
  ⟨(CharSet.words lines).map CharRun.ofWord⟩

end CharMap

end RoutineAtlas
