import RoutineAtlas.Doc.Section
import RoutineAtlas.Token

/-!
# Linking blocks to routines

Finding the documentation blocks of a file and the routine that each documents: the one whose
definition comes next, with only comments in between. A block lasts as long as comments follow its
opening; one that meets any other token before it is closed is reported.
-/

namespace RoutineAtlas

/-- Where the search for blocks stands. -/
inductive BlockSearch where
  | outside
  /-- Inside a block, after its opening. -/
  | inside (opening : Span)
  /-- After the end of a block, before the token that shows what it documents. -/
  | closed (opening closing : Span)
deriving DecidableEq, Repr

namespace BlockSearch

/-- A block without end, whose content stops before line `stop`, and its problems. -/
def unclosedBlock (lines : List Text) (opening : Span) (stop : Nat) : DocBlock × List Problem :=
  let (sections, problems) := SectionList.ofLines lines (opening.line + 1) stop
  (⟨opening, none, sections, none⟩, problems ++ [.plain .unclosedDocBlock opening])

/-- A block that was closed, and its problems. -/
def closedBlock (lines : List Text) (opening closing : Span) (routine : Option Span) :
    DocBlock × List Problem :=
  let (sections, problems) := SectionList.ofLines lines (opening.line + 1) closing.line
  (⟨opening, some closing, sections, routine⟩, problems)

/-- The search outside of any block, after it has met the token `t`. -/
def meet (t : Token) : BlockSearch :=
  if t.kind == .docOpen then .inside t.start else .outside

/-- The blocks that the tokens ahead complete, each with its problems. -/
def run (lines : List Text) : BlockSearch → List Token → List (DocBlock × List Problem)
  | .outside, [] => []
  | .inside opening, [] => [unclosedBlock lines opening lines.length]
  | .closed opening closing, [] => [closedBlock lines opening closing none]
  | .outside, t :: ts => run lines (meet t) ts
  | .inside opening, t :: ts =>
    if t.kind == .comment then run lines (.inside opening) ts
    else if t.kind == .docClose then run lines (.closed opening t.start) ts
    else unclosedBlock lines opening t.start.line :: run lines (meet t) ts
  | .closed opening closing, t :: ts =>
    if t.kind == .comment then run lines (.closed opening closing) ts
    else
      let routine := if t.startsRoutine then some t.start else none
      closedBlock lines opening closing routine :: run lines (meet t) ts

end BlockSearch

/-- The documentation blocks of a file and the problems found in them. -/
structure DocBlocks where
  blocks : List DocBlock
  problems : List Problem
deriving DecidableEq, Repr

/-- The documentation blocks of a file, given its tokens and its lines. -/
def DocBlocks.ofTokens (tokens : List Token) (lines : List Text) : DocBlocks :=
  let found := BlockSearch.run lines .outside tokens
  ⟨found.map (·.1), found.flatMap (·.2)⟩

end RoutineAtlas
