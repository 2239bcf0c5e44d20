import RoutineAtlas.Doc.Block
import RoutineAtlas.Problem

/-!
# Sections of a documentation block

Reading the lines between the delimiters of a block. Each line is first classified by itself
(`DocLine.read?`) and then added to the section at hand (`SectionList.add`). Reading never fails: a
malformed entry is reported, and the lines after it are still read.
-/

namespace RoutineAtlas

/-- The comment on a line that holds nothing else: the column after its `;` and what follows. -/
def commentBody? (line : Text) : Option (Nat × Text) :=
  match line.trimStart with
  | ';' :: body => some (line.length - body.length, body)
  | _ => none

/-- What a line says within a documentation block. -/
inductive DocLine where
  /-- A `:Tag:`, where it stands and the text after it. -/
  | header (tag : Text) (span : Span) (inline : Text)
  | blank
  /-- Anything else: how far it is indented, and the whole comment. -/
  | content (indent : Nat) (body : Text)
deriving DecidableEq, Repr

/-- A letter, a blank or an underscore: what a tag is written with after its first letter. -/
def isTagChar (c : Char) : Bool :=
  c.isAlpha || c == ' ' || c == '_'

/-- The tag that opens a comment, and the text after it. -/
def tagHeader? (body : Text) : Option (Text × Text) :=
  match body.trimStart with
  | ':' :: rest =>
    match rest.dropWhile isTagChar with
    | ':' :: inline =>
      let tag := rest.takeWhile isTagChar
      if tag.head?.any Char.isAlpha && !inline.contains '\n' then some (tag, inline) else none
    | _ => none
  | _ => none

/-- The name and the attributes of an entry, as a line writes them. -/
def entryHeader? (body : Text) : Option (Text × List Text) :=
  match body.trimStart with
  | [] => none
  | c :: rest =>
    if isNameStart c then
      match Text.trimStart (rest.dropWhile extendsWord) with
      | ':' :: attributes =>
        if attributes.contains '\n' then none
        else
          let pieces := (Text.piecesAt ',' attributes).map Text.trim
          some (c :: rest.takeWhile extendsWord, pieces.filter fun a => !a.isEmpty)
      | _ => none
    else none

/-- What line number `n` says within a documentation block; nothing if it holds no comment. -/
def DocLine.read? (n : Nat) (line : Text) : Option DocLine := do
  let (column, body) ← commentBody? line
  let indent := (body.takeWhile isBlank).length
  return match tagHeader? body with
    | some (tag, inline) => .header tag ⟨n, column + indent, tag.length + 3⟩ inline.trim
    | none => if body.isBlankOnly then .blank else .content indent body

/-- The sections read so far, the section at hand first. -/
structure SectionList where
  reversed : List DocSection
  /-- How far the entries of the section at hand are indented, once its first line has told. -/
  level : Option Nat
  problems : List Problem
deriving DecidableEq, Repr

namespace SectionList

/-- No sections yet. -/
def empty : SectionList :=
  ⟨[], none, []⟩

/-- The section at hand (a description begins where no tag has been read yet), and those before
it. -/
def current (s : SectionList) (full : Span) : DocSection × List DocSection :=
  match s.reversed with
  | [] => (⟨.description, none, full, [], []⟩, [])
  | sec :: before => ({ sec with stop := full }, before)

/-- Report a line of an entry list that is no entry. -/
def malformed (s : SectionList) (full : Span) : SectionList :=
  { s with problems := s.problems ++ [.plain .malformedDocEntry full] }

/-- Add a line of description to the last entry. -/
def describe (entries : List DocEntry) (line : Text) : List DocEntry :=
  entries.modify (entries.length - 1) fun e => { e with description := e.description ++ [line] }

/-- Add a line to the entries of the section at hand. A line that is indented more than the first
describes the last entry; any other line is an entry. -/
def addToEntries (s : SectionList) (sec : DocSection) (before : List DocSection) (full : Span)
    (indent : Nat) (body : Text) : SectionList :=
  let level := s.level.getD indent
  let kept : SectionList := { s with reversed := sec :: before, level := some level }
  if level < indent then
    if sec.entries.isEmpty then kept.malformed full
    else { kept with reversed := { sec with entries := describe sec.entries body.trim } :: before }
  else
    match entryHeader? body with
    | some (name, attributes) =>
      let entry : DocEntry := ⟨name, attributes, [], full⟩
      { kept with reversed := { sec with entries := sec.entries ++ [entry] } :: before }
    | none => kept.malformed full

/-- Add what a line says; `full` is the whole line. -/
def add (s : SectionList) (full : Span) (line : DocLine) : SectionList :=
  match line with
  | .header tag span inline =>
    let text := if inline.isEmpty then [] else [inline]
    { s with reversed := ⟨.ofText tag, some span, full, text, []⟩ :: s.reversed, level := none }
  | .blank =>
    match s.reversed with
    | [] => s
    | sec :: before => { s with reversed := { sec with stop := full } :: before }
  | .content indent body =>
    let (sec, before) := s.current full
    if sec.tag.hasEntries then s.addToEntries sec before full indent body
    else { s with reversed := { sec with text := sec.text ++ [body.trim] } :: before }

/-- Read lines that are numbered from `n` on. -/
def addLines (s : SectionList) (n : Nat) : List Text → SectionList
  | [] => s
  | line :: rest =>
    match DocLine.read? n line with
    | some said => (s.add ⟨n, 0, line.length⟩ said).addLines (n + 1) rest
    | none => s.addLines (n + 1) rest

/-- The sections and problems of the lines from number `first` up to, not including, number
`stop`. -/
def ofLines (lines : List Text) (first stop : Nat) : List DocSection × List Problem :=
  let s := empty.addLines first ((lines.drop first).take (stop - first))
  (s.reversed.reverse, s.problems)

end SectionList

end RoutineAtlas
