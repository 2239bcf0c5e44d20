import RoutineAtlas.Span
import RoutineAtlas.Text.Blank

/-!
# Edits of a document

An editor changes a document by replacing a range of it. Positions in such a range count lines and,
within a line, code units of sixteen bits. Here a line ends at any of the line ends that Unicode
knows, and not only where a line of source code ends.
-/

namespace RoutineAtlas

/-- A change of a document: new text for a range, or for the whole document. -/
structure TextChange where
  range : Option Range
  text : Text
deriving DecidableEq, Repr

/-- The characters that end a line. -/
def isLineEnd (c : Char) : Bool :=
  (0xA ≤ c.toNat && c.toNat ≤ 0xD) || c.toNat == 0x85 || c.toNat == 0x2028 || c.toNat == 0x2029

/-- The number of code units of sixteen bits that a character takes. -/
def codeUnits (c : Char) : Nat :=
  if c.toNat < 0x10000 then 1 else 2

namespace Text

/-- The offset at which a line starts; nothing if the text has fewer lines. -/
def lineOffset? : (line : Nat) → Text → Option Nat
  | 0, _ => some 0
  | _ + 1, [] => none
  | line + 1, '\r' :: '\n' :: rest => (lineOffset? line rest).map (· + 2)
  | line + 1, c :: rest =>
    (lineOffset? (if isLineEnd c then line else line + 1) rest).map (· + 1)

/-- The offset of a column within the line that a text starts with. A column inside a character is
after it, and one beyond the end of the line is before the line feed or carriage return there, or
after any other line end. -/
def columnOffset : (column : Nat) → Text → Nat
  | 0, _ => 0
  | _, [] => 0
  | column, c :: rest =>
    if c == '\n' || c == '\r' then 0
    else if isLineEnd c then 1
    else columnOffset (column - codeUnits c) rest + 1

/-- The offset of a position. One beyond the last line is the end of the text. -/
def offset (t : Text) (here : Cursor) : Nat :=
  match lineOffset? here.line t with
  | some start => start + columnOffset here.character (t.drop start)
  | none => t.length

/-- The text after a change. A range that ends before its start is empty. -/
def edit (t : Text) (change : TextChange) : Text :=
  match change.range with
  | none => change.text
  | some range =>
    let start := t.offset range.start
    let stop := max (t.offset range.stop) start
    t.take start ++ change.text ++ t.drop stop

/-- The text after some changes, one after the other. -/
def editAll (t : Text) (changes : List TextChange) : Text :=
  changes.foldl edit t

end Text

end RoutineAtlas
