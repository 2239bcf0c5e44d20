import RoutineAtlas.Path
import RoutineAtlas.Text.Utf8

/-!
# Disks

The files and directories that a run can see, as a value.
-/

namespace RoutineAtlas

/-- What a file holds: its text, and whether its bytes are really text. Where they are not, the
text has replacement characters. -/
structure FileContent where
  text : Text
  isText : Bool
deriving DecidableEq, Repr

namespace FileContent

/-- The content of a file that holds a text. -/
def ofText (t : Text) : FileContent :=
  ⟨t, true⟩

/-- The content of a file that holds some bytes. -/
def ofBytes (bytes : List UInt8) : FileContent :=
  match Text.ofUtf8? bytes with
  | some t => ⟨t, true⟩
  | none => ⟨Text.ofUtf8Lossy bytes, false⟩

/-- The text of a file, if its bytes are text. -/
def text? (c : FileContent) : Option Text :=
  if c.isText then some c.text else none

end FileContent

/-- What a path leads to. -/
inductive DiskNode where
  | directory
  | file (content : FileContent)
deriving DecidableEq, Repr

/-- A disk: every file and directory below the root by the names that lead to it. -/
structure Disk where
  nodes : List (List Text × DiskNode)
  /-- The names that lead to the directory at which relative paths start. -/
  start : List Text
deriving DecidableEq, Repr

/-- Why a path leads nowhere. -/
inductive PathError where
  | notFound
  | notDirectory
  | nameTooLong
  | holdsNul
deriving DecidableEq, Repr

namespace PathError

/-- What the system says about the failure. -/
def message : PathError → String
  | notFound => "No such file or directory (os error 2)"
  | notDirectory => "Not a directory (os error 20)"
  | nameTooLong => "File name too long (os error 36)"
  | holdsNul => "file name contained an unexpected NUL byte"

end PathError

namespace Disk

/-- The disk with nothing below the root, where relative paths start. -/
def empty : Disk :=
  ⟨[], []⟩

/-- The path from the root by some names. -/
def absolute (names : List Text) : Path :=
  .ofText (if names.isEmpty then ['/'] else names.flatMap ('/' :: ·))

/-- What the names lead to. -/
def node? (d : Disk) (names : List Text) : Option DiskNode :=
  if names.isEmpty then some .directory else d.nodes.lookup names

/-- The names lead to a directory. -/
def isDirectory (d : Disk) (names : List Text) : Bool :=
  d.node? names == some .directory

/-- The number of bytes that a name may have. -/
def longestName : Nat := 255

/-- Follow the pieces of a path between its separators from the directory that `names` leads to,
given innermost first. Every name has to lead somewhere, and a directory has to stand before every
piece. -/
def resolveFrom (d : Disk) (names : List Text) : List FileName → Except PathError (List Text)
  | [] => .ok names.reverse
  | piece :: rest =>
    if !d.isDirectory names.reverse then .error .notDirectory
    else if piece.isEmpty || piece == PathPart.here.written then d.resolveFrom names rest
    else if piece == PathPart.up.written then d.resolveFrom names.tail rest
    else if longestName < (FileName.bytes piece).length then .error .nameTooLong
    else
      match FileName.text? piece with
      | some n =>
        if (d.node? (n :: names).reverse).isNone then .error .notFound
        else d.resolveFrom (n :: names) rest
      | none => .error .notFound

/-- The names from the root that a path leads to. -/
def resolveNames (d : Disk) (p : Path) : Except PathError (List Text) :=
  if p.spelling.isEmpty then .error .notFound
  else if p.spelling.contains (.char '\x00') then .error .holdsNul
  else d.resolveFrom (if p.isAbsolute then [] else d.start.reverse) p.pieces

/-- The absolute path, without `.` and `..`, that a path leads to. -/
def resolve (d : Disk) (p : Path) : Except PathError Path := do
  return absolute (← d.resolveNames p)

/-- What a path leads to. -/
def get? (d : Disk) (p : Path) : Option DiskNode :=
  match d.resolveNames p with
  | .ok names => d.node? names
  | .error _ => none

/-- The path leads to a directory. -/
def isDir (d : Disk) (p : Path) : Bool :=
  d.get? p == some .directory

/-- The path leads to a file. -/
def isFile (d : Disk) (p : Path) : Bool :=
  match d.get? p with
  | some (.file _) => true
  | _ => false

/-- What the file at a path holds. -/
def content? (d : Disk) (p : Path) : Option FileContent :=
  match d.get? p with
  | some (.file content) => some content
  | _ => none

/-- The text of the file at a path; nothing if it cannot be read. -/
def read? (d : Disk) (p : Path) : Option Text :=
  (d.content? p).bind (·.text?)

/-- The disk with a node put at the end of the names. -/
def put (d : Disk) (names : List Text) (node : DiskNode) : Disk :=
  if d.nodes.any fun entry => entry.1 == names then
    { d with nodes := d.nodes.map fun entry => if entry.1 == names then (names, node) else entry }
  else { d with nodes := d.nodes ++ [(names, node)] }

/-- Make a directory and those above it; nothing if a file is in the way. -/
def makeDirectories? (d : Disk) (made : List Text) : List Text → Option Disk
  | [] => some d
  | n :: rest =>
    let names := made ++ [n]
    match d.node? names with
    | some .directory => d.makeDirectories? names rest
    | some (.file _) => none
    | none => (d.put names .directory).makeDirectories? names rest

/-- The names from the root that a path stands for when it is only read, not followed. -/
def plainNames (d : Disk) (p : Path) : List Text :=
  let step (names : List Text) (part : PathPart) : List Text :=
    match part with
    | .root => []
    | .here => names
    | .up => names.dropLast
    | .name n => names ++ [FileName.shown n]
  p.parts.foldl step d.start

/-- Make a directory and those above it. -/
def makeDirectory? (d : Disk) (p : Path) : Option Disk :=
  d.makeDirectories? [] (d.plainNames p)

/-- Write a file, after the directories above it. -/
def write? (d : Disk) (p : Path) (content : FileContent) : Option Disk := do
  let names := d.plainNames p
  let d ← d.makeDirectories? [] names.dropLast
  match d.node? names with
  | some .directory => none
  | _ => some (d.put names (.file content))

/-- Delete a file. -/
def delete? (d : Disk) (p : Path) : Option Disk :=
  let names := d.plainNames p
  match d.node? names with
  | some (.file _) => some { d with nodes := d.nodes.filter fun entry => entry.1 != names }
  | _ => none

/-- The names below `names` that lead to `below`. -/
def relative? : (names below : List Text) → Option (List Text)
  | [], below => some below
  | n :: names, b :: below => if n == b then relative? names below else none
  | _ :: _, [] => none

/-- The files below a directory, each by the names that lead to it from there. -/
def filesBelow (d : Disk) (p : Path) : List (List Text) :=
  match d.resolveNames p with
  | .error _ => []
  | .ok names => d.nodes.filterMap fun entry =>
    match entry.2 with
    | .file _ => relative? names entry.1
    | .directory => none

end Disk

end RoutineAtlas
