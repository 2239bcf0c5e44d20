/-!
# Spans, cursors and ranges

A `Span` is a run of characters within one line. A `Cursor` is a place between two characters, as
an editor reports it, and a `Range` is what lies between two cursors.
-/

namespace RoutineAtlas

/-- A place in the text: `character` characters into line `line`, both counted from zero. -/
structure Cursor where
  line : Nat
  character : Nat
deriving DecidableEq, Repr, Inhabited

namespace Cursor

/-- Reading order: by line, then by character. -/
def le (a b : Cursor) : Bool :=
  a.line < b.line || (a.line == b.line && a.character ≤ b.character)

/-- Strict reading order. -/
def lt (a b : Cursor) : Bool :=
  a.line < b.line || (a.line == b.line && a.character < b.character)

end Cursor

/-- What lies between two cursors. -/
structure Range where
  start : Cursor
  stop : Cursor
deriving DecidableEq, Repr, Inhabited

/-- A run of `length` characters of line `line`, starting at `column`. -/
structure Span where
  line : Nat
  column : Nat
  length : Nat
deriving DecidableEq, Repr, Inhabited

namespace Span

/-- The column one past the last character. -/
def endColumn (s : Span) : Nat :=
  s.column + s.length

/-- The place before the first character. -/
def startCursor (s : Span) : Cursor :=
  ⟨s.line, s.column⟩

/-- The place after the last character. -/
def endCursor (s : Span) : Cursor :=
  ⟨s.line, s.endColumn⟩

/-- The cursor stands inside the span or at one of its two ends. -/
def touches (s : Span) (here : Cursor) : Bool :=
  s.line == here.line && s.column ≤ here.character && here.character ≤ s.endColumn

/-- The order of two spans by where they start. -/
def order (a b : Span) : Ordering :=
  (compare a.line b.line).then (compare a.column b.column)

/-- `a` starts no later than `b`. -/
def startsBy (a b : Span) : Bool :=
  a.startCursor.le b.startCursor

/-- What lies from the start of `a` through the end of `b`. -/
def through (a b : Span) : Range :=
  ⟨a.startCursor, b.endCursor⟩

/-- The span as a range. -/
def range (s : Span) : Range :=
  s.through s

/-- The cursor lies from the start of `a` through the end of `b`, both included. -/
def encloses (a b : Span) (here : Cursor) : Bool :=
  a.startCursor.le here && here.le b.endCursor

end Span

end RoutineAtlas
