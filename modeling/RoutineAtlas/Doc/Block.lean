import RoutineAtlas.Span
import RoutineAtlas.Text.Case

/-!
# Documentation blocks

A documentation block is a run of comment lines between `;+` and `;-`. It is made of sections, each
opened by a `:Tag:`, and the sections on parameters and keywords are made of entries.
-/

namespace RoutineAtlas

/-- What a section of a documentation block is about. -/
inductive DocTag where
  | description
  | params
  | keywords
  | returns
  | examples
  | author
  | history
  | privateOnly
  | hidden
  | tooltip
  | other (text : Text)
deriving DecidableEq, Repr

namespace DocTag

/-- The tags by the words that write them, in small letters. -/
def spellings : List (Text × DocTag) :=
  [("description", description), ("params", params), ("arguments", params), ("args", params),
    ("keywords", keywords), ("returns", returns), ("examples", examples), ("author", author),
    ("history", history), ("private", privateOnly), ("hidden", hidden),
    ("tooltip", tooltip)].map fun entry => (Text.ofString entry.1, entry.2)

/-- The tag that a text writes, in any letter case and with blanks around it. -/
def ofText (t : Text) : DocTag :=
  match spellings.lookup t.trim.lower with
  | some tag => tag
  | none => other t.trim

/-- The sections of this tag are lists of entries. -/
def hasEntries : DocTag → Bool
  | params | keywords => true
  | _ => false

end DocTag

/-- The documentation of one parameter or keyword. -/
structure DocEntry where
  /-- The name as it is written. -/
  name : Text
  attributes : List Text
  description : List Text
  /-- The whole line that names it. -/
  span : Span
deriving DecidableEq, Repr

/-- The form of the name that comparisons use. -/
def DocEntry.key (e : DocEntry) : Text :=
  e.name.lower

/-- A section of a documentation block. -/
structure DocSection where
  tag : DocTag
  /-- Where the tag stands; the text before the first tag is a section without one. -/
  header : Option Span
  /-- The whole last line of the section. -/
  stop : Span
  text : List Text
  entries : List DocEntry
deriving DecidableEq, Repr

/-- A documentation block. -/
structure DocBlock where
  opening : Span
  /-- Where the closing delimiter stands, if there is one. -/
  closing : Option Span
  sections : List DocSection
  /-- Where the routine starts that the block documents. -/
  routineStart : Option Span
deriving DecidableEq, Repr

namespace DocBlock

/-- The block documents no routine. -/
def isOrphaned (b : DocBlock) : Bool :=
  b.routineStart.isNone

/-- The first section of the given tag. -/
def section? (b : DocBlock) (tag : DocTag) : Option DocSection :=
  b.sections.find? fun s => s.tag == tag

/-- The lines of all descriptions of the block. -/
def description (b : DocBlock) : List Text :=
  (b.sections.filter fun s => s.tag == .description).flatMap (·.text)

/-- The entry on `name` in the first section of the given tag. -/
def entryNamed? (b : DocBlock) (tag : DocTag) (name : Text) : Option DocEntry := do
  let s ← b.section? tag
  s.entries.find? fun e => e.name.sameName name

end DocBlock

end RoutineAtlas
