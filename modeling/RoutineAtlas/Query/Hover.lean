import RoutineAtlas.Query.Selection
import RoutineAtlas.Settings

/-!
# Hover texts

What an editor shows about the thing under the cursor, in Markdown.
-/

namespace RoutineAtlas

/-- A text about a stretch of source. -/
structure Hover where
  markdown : String
  range : Range
deriving DecidableEq, Repr

namespace Hover

/-- Source code set off from the prose. -/
def codeBlock (code : Text) : String :=
  "```idl\n" ++ String.ofList code ++ "\n```"

/-- Texts joined by a separator. -/
def joined (separator : String) (texts : List Text) : String :=
  separator.intercalate (texts.map String.ofList)

/-- The text, or nothing if there is nothing to say. -/
def unlessEmpty (texts : List Text) (text : String) : String :=
  if texts.isEmpty then "" else text

/-- The documentation of a parameter as paragraphs of its own. -/
def entryParagraphs (e : DocEntry) : String :=
  unlessEmpty e.attributes ("\n\n*" ++ joined ", " e.attributes ++ "*") ++
    unlessEmpty e.description ("\n\n" ++ joined "\n" e.description)

/-- The documentation of a parameter as an item of a list. -/
def entryItem (e : DocEntry) : String :=
  "\n- `" ++ String.ofList e.name ++ "`" ++
    unlessEmpty e.attributes (" *" ++ joined ", " e.attributes ++ "*") ++
    unlessEmpty e.description (": " ++ joined " " e.description)

/-- The entries of a section under a title. -/
def entryList (docs : DocBlock) (tag : DocTag) (title : String) : String :=
  match docs.section? tag with
  | some sec =>
    if sec.entries.isEmpty then ""
    else "\n\n**" ++ title ++ "**\n" ++ String.join (sec.entries.map entryItem)
  | none => ""

/-- The documentation of a routine. -/
def docsText (docs : DocBlock) : String :=
  let description := docs.description
  let returns := ((docs.section? .returns).map (·.text)).getD []
  unlessEmpty description ("\n\n" ++ joined "\n" description) ++
    entryList docs .params "Arguments" ++ entryList docs .keywords "Keywords" ++
    unlessEmpty returns ("\n\n**Returns** " ++ joined " " returns)

/-- The text on a routine. -/
def routineText (w : Workspace) (s : Signature) : String :=
  codeBlock s.headerText ++ ((w.docsOf? s).map docsText).getD ""

/-- The text on a keyword of a routine. -/
def keywordText (w : Workspace) (s : Signature) (k : Keyword) : String :=
  codeBlock (k.name ++ '=' :: k.target) ++ "\n\nKeyword of `" ++ String.ofList s.name ++ "`" ++
    ((w.parameterDocs? s .keywords k.name).map entryParagraphs).getD ""

/-- The documentation of a parameter of the routine that a variable belongs to. -/
def ownerDocs (w : Workspace) (owner : Option Signature) (tag : DocTag) (name : Text) : String :=
  ((owner.bind fun s => w.parameterDocs? s tag name).map entryParagraphs).getD ""

/-- The text on a variable of a routine, or of the main level. -/
def bindingText (w : Workspace) (b : Binding) (owner : Option Signature) : String :=
  let ownerText := match owner with
    | some s => "`" ++ String.ofList s.name ++ "`"
    | none => "the main level"
  codeBlock b.name ++
    match b.kind with
    | .argument => "\n\nArgument of " ++ ownerText ++ ownerDocs w owner .params b.name
    | .keyword name =>
      "\n\nVariable of keyword `" ++ String.ofList name ++ "` of " ++ ownerText ++
        ownerDocs w owner .keywords name
    | .localVariable => "\n\nLocal variable of " ++ ownerText
    | .common block => "\n\nMember of common block `" ++ String.ofList block ++ "`"

end Hover

/-- The hover text at the cursor of a file. -/
def Workspace.hover? (w : Workspace) (settings : Settings) (p : Path) (here : Cursor) :
    Option Hover :=
  if settings.hover then do
    match ← w.select? p here with
    | .routine s span _ => return ⟨Hover.routineText w s, span.range⟩
    | .keyword s k span => return ⟨Hover.keywordText w s k, span.range⟩
    | .binding scope b span =>
      let entry ← w.file? p
      let owner := (entry.analysis.record.routineOfScope? scope).map (·.signature)
      return ⟨Hover.bindingText w b owner, span.range⟩
  else none

end RoutineAtlas
