import RoutineAtlas.Doc.Link
import RoutineAtlas.Record.Outline
import RoutineAtlas.Text.Lines
import RoutineAtlas.Token.Scan

/-!
# Analyses

The analysis of one file. What the file's own text shows is read first; the checks that need the
routines of other files come after and keep a problem list of their own.
-/

namespace RoutineAtlas

/-- The analysis of a file. -/
structure Analysis where
  path : Path
  tokens : List Token
  blocks : List DocBlock
  record : Record
  /-- The problems that the text alone shows. -/
  parseProblems : List Problem
  /-- The problems found by checking the file against the routines it can call. -/
  checkProblems : List Problem
deriving DecidableEq, Repr

namespace Analysis

/-- Read a file. Nothing outside of the text is looked at, and nothing is checked yet. -/
def read (path : Path) (text : Text) : Analysis :=
  let lines := text.sourceLines
  let stream := TokenStream.ofLines lines
  let docs := DocBlocks.ofTokens stream.tokens lines
  let (record, structureProblems) := Record.ofTokens path stream.tokens
  { path := path
    tokens := stream.tokens
    blocks := docs.blocks
    record := record
    parseProblems := Problem.sort (stream.problems ++ docs.problems ++ structureProblems)
    checkProblems := [] }

/-- All problems of a file, those of its text first. -/
def problems (a : Analysis) : List Problem :=
  a.parseProblems ++ a.checkProblems

/-- The documentation of a routine of the file. -/
def docsFor? (a : Analysis) (s : Signature) : Option DocBlock :=
  a.blocks.find? fun b => b.routineStart == some s.start

/-- The token at the cursor, comments left out. -/
def tokenAt? (a : Analysis) (here : Cursor) : Option Token :=
  a.tokens.find? fun t => !t.kind.isComment && t.contains here

end Analysis

end RoutineAtlas
