import RoutineAtlas.Text.Case
import RoutineAtlas.Url

/-!
# Documents of an editor

An editor names its documents by URLs, a workspace by paths. A document without a file, such as a
cell of a notebook, has the text of its URL for a path.
-/

namespace RoutineAtlas

/-- The path under which a document is analysed. -/
def documentPath? (u : Url) : Option Path :=
  if u.isFile then u.filePath? else some (.ofText u.toText)

/-- The URL of a document by its path. A relative path has none, unless it is the text of a URL. -/
def documentUrl? (p : Path) : Option Url :=
  if p.isAbsolute then Url.ofFilePath? p
  else
    match p.text?.map Url.ofText with
    | some (.ok u) => if u.isFile then none else some u
    | _ => none

/-- The path stands for a document without a file. -/
def isVirtualDocument (p : Path) : Bool :=
  !p.isAbsolute && (documentUrl? p).isSome

/-- What follows the last dot of a file name, unless the dot comes first. -/
def extension? (name : FileName) : Option FileName :=
  let last := (name.reverse.takeWhile (· != .char '.')).reverse
  if last.length + 1 < name.length then some last else none

/-- The document is a source file on disk, whose tokens are classified. -/
def isClassifiedDocument (u : Url) : Bool :=
  u.isFile && ((u.filePath?.bind (·.fileName?)).bind extension?).any fun extension =>
    (FileName.text? extension).any (·.sameName "pro".toList)

end RoutineAtlas
