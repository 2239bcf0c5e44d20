import RoutineAtlas.Doc.Block
import RoutineAtlas.Problem
import RoutineAtlas.Routine.Signature

/-!
# Documentation against signatures

A routine's documentation should describe the parameters that the routine has. For each of the two
entry lists, only the first section of its kind counts.
-/

namespace RoutineAtlas.Docs

/-- A problem with a whole section. -/
def sectionProblem (block : DocBlock) (sec : DocSection) (code : ProblemCode) : Problem :=
  ⟨code.number, code.message, sec.header.getD block.opening, sec.stop⟩

/-- The entries of a section that describe none of the declared names. -/
def undeclared (sec : DocSection) (declared : List Text) : List Problem :=
  (sec.entries.filter fun e => !declared.contains e.key).map fun e =>
    .about .documentedParamMissing e.key e.span

/-- The parameters that no entry of a section describes. -/
def undocumented (sec : DocSection) (code : ProblemCode) (parameters : List (Text × Span)) :
    List Problem :=
  (parameters.filter fun p => !(sec.entries.map (·.key)).contains p.1).map fun p =>
    .about code p.1 p.2

/-- A section with entries for a routine that has nothing they could describe. -/
def pointless (block : DocBlock) (sec : DocSection) (code : ProblemCode) (declared : List Text) :
    List Problem :=
  if declared.isEmpty && !sec.entries.isEmpty then [sectionProblem block sec code] else []

/-- Check the entries on arguments. -/
def checkArgs (s : Signature) (block : DocBlock) (sec : DocSection) : List Problem :=
  let declared := s.args.map (·.name.lower)
  pointless block sec .noArgsToDoc declared ++ undeclared sec declared ++
    undocumented sec .argMissingFromDocs (s.args.map fun a => (a.name.lower, a.span))

/-- Check the entries on keywords. A keyword that passes on others may be described, but need not
be. -/
def checkKeywords (s : Signature) (block : DocBlock) (sec : DocSection) : List Problem :=
  let declared := s.keywords.map (·.name.lower)
  pointless block sec .noKwsToDoc declared ++ undeclared sec declared ++
    undocumented sec .keywordMissingFromDocs (s.namedKeywords.map fun k => (k.name.lower, k.span))

/-- Check a routine's documentation. -/
def check (s : Signature) (block : DocBlock) : List Problem :=
  let args := ((block.section? .params).map (checkArgs s block)).getD []
  let keywords := ((block.section? .keywords).map (checkKeywords s block)).getD []
  let returns :=
    if s.kind.isFunction then []
    else
      ((block.section? .returns).map fun sec => sectionProblem block sec .returnsOnProcedure).toList
  args ++ keywords ++ returns

end RoutineAtlas.Docs
