import RoutineAtlas.Text.Utf8

/-!
# Paths

A path is kept as it was written and compared by its parts: repeated separators, a separator at
the end and parts `.` other than the first make no difference, while `..` is a part like any other.

To the system a path is a list of bytes. Nearly all paths are text, and their names are kept as
characters; a name whose bytes are no text is kept as those bytes.
-/

namespace RoutineAtlas

/-- A unit of a path: a character, or a byte of a name that is no text. -/
inductive PathUnit where
  | char (c : Char)
  | byte (b : UInt8)
deriving DecidableEq, Repr

namespace PathUnit

/-- The bytes of a unit. -/
def bytes : PathUnit → List UInt8
  | char c => String.utf8EncodeChar c
  | byte b => [b]

/-- The character of a unit, if it is one. -/
def char? : PathUnit → Option Char
  | char c => some c
  | byte _ => none

/-- The separator of the parts of a path. -/
def slash : PathUnit :=
  char '/'

/-- The unit that a byte of a name is kept as where the name is no text. -/
def ofByte (b : UInt8) : PathUnit :=
  if b < 0x80 then char (Char.ofNat b.toNat) else byte b

end PathUnit

/-- The name of a file or a directory. -/
abbrev FileName := List PathUnit

namespace FileName

/-- The name that is a text. -/
def ofText (t : Text) : FileName :=
  t.map PathUnit.char

/-- The name with some bytes. -/
def ofBytes (bytes : List UInt8) : FileName :=
  match Text.ofUtf8? bytes with
  | some t => ofText t
  | none => bytes.map PathUnit.ofByte

/-- The bytes of a name. -/
def bytes (name : FileName) : List UInt8 :=
  name.flatMap PathUnit.bytes

/-- The text of a name, if it is one. -/
def text? (name : FileName) : Option Text :=
  name.mapM PathUnit.char?

/-- The text by which a name is shown. -/
def shown (name : FileName) : Text :=
  (text? name).getD (Text.ofUtf8Lossy (bytes name))

/-- The order of bytes: the first difference decides, and a list comes before its extensions. -/
def bytesLe : List UInt8 → List UInt8 → Bool
  | [], _ => true
  | _ :: _, [] => false
  | a :: as, b :: bs => if a == b then bytesLe as bs else a < b

/-- The order of names by their bytes. -/
def le (m n : FileName) : Bool :=
  bytesLe (bytes m) (bytes n)

@[simp] theorem text?_ofText (t : Text) : text? (ofText t) = some t := by
  induction t with
  | nil => rfl
  | cons c t ih =>
    simp only [text?, ofText, List.map_cons, List.mapM_cons] at ih ⊢
    simp [ih, PathUnit.char?]

end FileName

/-- A part of a path. -/
inductive PathPart where
  | root
  | here
  | up
  | name (name : FileName)
deriving DecidableEq, Repr

namespace PathPart

/-- The place of the sort of a part among the sorts. -/
def rank : PathPart → Nat
  | root => 0
  | here => 1
  | up => 2
  | name _ => 3

/-- The order of parts: the root first, then `.`, then `..`, then names by their bytes. -/
def le : PathPart → PathPart → Bool
  | name a, name b => FileName.le a b
  | a, b => a.rank ≤ b.rank

/-- How a part is written between separators. -/
def written : PathPart → FileName
  | root => []
  | here => [.char '.']
  | up => [.char '.', .char '.']
  | name n => n

end PathPart

/-- A path as it was written. -/
structure Path where
  spelling : List PathUnit
deriving DecidableEq, Repr, Inhabited

namespace Path

/-- The path that a text writes. -/
def ofText (t : Text) : Path :=
  ⟨FileName.ofText t⟩

/-- The path that a string writes. -/
def ofString (s : String) : Path :=
  ofText s.toList

/-- The path with some bytes. -/
def ofBytes (bytes : List UInt8) : Path :=
  ⟨[.slash].intercalate ((piecesBetween 0x2F bytes).map FileName.ofBytes)⟩

/-- The text of a path, if all its names are text. -/
def text? (p : Path) : Option Text :=
  FileName.text? p.spelling

/-- The text by which a path is shown. -/
def shown (p : Path) : Text :=
  FileName.shown p.spelling

/-- The path as a string. -/
def toString (p : Path) : String :=
  String.ofList p.shown

/-- What stands between the separators of a path. -/
def pieces (p : Path) : List FileName :=
  piecesBetween .slash p.spelling

/-- The part between two separators, unless it makes no difference there. -/
def partOf? (piece : FileName) : Option PathPart :=
  if piece.isEmpty || piece == PathPart.here.written then none
  else if piece == PathPart.up.written then some .up
  else some (.name piece)

/-- The parts of a path. -/
def parts (p : Path) : List PathPart :=
  match p.pieces with
  | [] => []
  | first :: rest =>
    let lead : List PathPart :=
      if p.spelling.isEmpty then []
      else if first.isEmpty then [.root]
      else if first == PathPart.here.written then [.here]
      else (partOf? first).toList
    lead ++ rest.filterMap partOf?

/-- Two paths with the same parts. -/
def same (p q : Path) : Bool :=
  p.parts == q.parts

/-- The path starts at the root. -/
def isAbsolute (p : Path) : Bool :=
  p.spelling.head? == some .slash

/-- The order of part lists: the first difference decides, and a list comes before its
extensions. -/
def partsLe : List PathPart → List PathPart → Bool
  | [], _ => true
  | _ :: _, [] => false
  | a :: as, b :: bs => if a == b then partsLe as bs else a.le b

/-- The order of paths by their parts. -/
def le (p q : Path) : Bool :=
  partsLe p.parts q.parts

/-- The path that goes on from `p` by `q`; an absolute `q` stands for itself. -/
def join (p q : Path) : Path :=
  if q.isAbsolute then q
  else if p.spelling.isEmpty || p.spelling.getLast? == some .slash then
    ⟨p.spelling ++ q.spelling⟩
  else ⟨p.spelling ++ .slash :: q.spelling⟩

/-- The name of the file or directory that a path ends in. -/
def fileName? (p : Path) : Option FileName :=
  match p.parts.getLast? with
  | some (.name n) => some n
  | _ => none

/-- The way from one list of parts to another: up to where they part, and down from there. -/
def partsBetween : (start goal : List PathPart) → List PathPart
  | a :: start, b :: goal =>
    if a == b then partsBetween start goal
    else List.replicate (start.length + 1) .up ++ b :: goal
  | start, goal => List.replicate start.length .up ++ goal

/-- An absolute path as it is seen from an absolute directory. -/
def relativeTo (p directory : Path) : Path :=
  ⟨[.slash].intercalate ((partsBetween directory.parts p.parts).map PathPart.written)⟩

/-- The same parts reached from the same place. -/
theorem same_iff {p q : Path} : p.same q = true ↔ p.parts = q.parts := by
  simp [same]

end Path

end RoutineAtlas
