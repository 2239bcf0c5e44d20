import RoutineAtlas.Problem
import RoutineAtlas.Routine.Signature
import RoutineAtlas.Statement

/-!
# Headers of routines

Reading the statement that begins a routine. A header that goes wrong is reported, and what was
read before the fault is kept; only a header without a name is no routine.
-/

namespace RoutineAtlas

/-- Why a header is not valid. -/
inductive HeaderFault where
  | missingName
  | missingMethodName
  | unexpected (text : Text)
  | missingParameter
  | missingVariable
deriving DecidableEq, Repr

namespace HeaderFault

/-- What a report says about a fault. -/
def detail : HeaderFault → String
  | missingName => "missing routine name"
  | missingMethodName => "missing method name after \"::\""
  | unexpected text => "unexpected \"" ++ String.ofList text ++ "\""
  | missingParameter => "expected an argument or keyword"
  | missingVariable => "keyword is missing its variable"

/-- The report of a fault. -/
def problem (fault : HeaderFault) (span : Span) : Problem :=
  .on .invalidRoutineHeader (ProblemCode.invalidRoutineHeader.message ++ ": " ++ fault.detail) span

end HeaderFault

/-- The parameters of a header, and what is wrong with them. -/
structure ParameterList where
  args : List Argument
  keywords : List Keyword
  problems : List Problem
deriving DecidableEq, Repr

namespace ParameterList

/-- No parameters, and one fault. -/
def faulty (fault : HeaderFault) (span : Span) : ParameterList :=
  ⟨[], [], [fault.problem span]⟩

/-- The parameters read so far, for the sake of repetitions. A keyword and an argument may share
their name. -/
structure Seen where
  arguments : List Text
  keywords : List Text
  targets : List Text

namespace Seen

/-- Nothing has been read. -/
def none : Seen :=
  ⟨[], [], []⟩

/-- Whether an argument repeats an earlier parameter, and what has been read after it. -/
def argument (seen : Seen) (name : Text) : Bool × Seen :=
  if seen.arguments.contains name then (true, seen)
  else
    (seen.targets.contains name,
      { seen with arguments := name :: seen.arguments, targets := name :: seen.targets })

/-- Whether a keyword repeats an earlier parameter, and what has been read after it. -/
def keyword (seen : Seen) (name target : Text) : Bool × Seen :=
  if seen.keywords.contains name then (true, seen)
  else
    (seen.targets.contains target,
      { seen with keywords := name :: seen.keywords, targets := target :: seen.targets })

end Seen

/-- The report of a repeated parameter, if it is one. -/
def repetition (isRepeated : Bool) (target : Token) : List Problem :=
  if isRepeated then [.about .duplicateParameter target.key target.start] else []

/-- Put an argument before other parameters. -/
def addArgument (t : Token) (problems : List Problem) (rest : ParameterList) : ParameterList :=
  ⟨⟨t.text, t.start⟩ :: rest.args, rest.keywords, problems ++ rest.problems⟩

/-- Put a keyword before other parameters. -/
def addKeyword (t target : Token) (problems : List Problem) (rest : ParameterList) :
    ParameterList :=
  ⟨rest.args, ⟨t.text, target.text, t.start, target.start⟩ :: rest.keywords,
    problems ++ rest.problems⟩

/-- Read the parameters of a header. Each comes after a comma, and a keyword is followed by `=` and
its variable. -/
def read (seen : Seen) : List Token → ParameterList
  | [] => ⟨[], [], []⟩
  | separator :: rest =>
    if separator.kind != .comma then faulty (.unexpected separator.text) separator.start
    else
      match rest with
      | [] => faulty .missingParameter separator.start
      | t :: rest =>
        if !t.isWord then faulty .missingParameter t.start
        else
          match rest with
          | [] =>
            let (isRepeated, _) := seen.argument t.key
            addArgument t (repetition isRepeated t) ⟨[], [], []⟩
          | sign :: afterSign =>
            if sign.isOperator "=" then
              match afterSign with
              | [] => faulty .missingVariable t.stop
              | target :: rest =>
                if target.kind == .identifier then
                  let (isRepeated, seen) := seen.keyword t.key target.key
                  addKeyword t target (repetition isRepeated target) (read seen rest)
                else faulty .missingVariable target.start
            else
              let (isRepeated, seen) := seen.argument t.key
              addArgument t (repetition isRepeated t) (read seen (sign :: afterSign))

end ParameterList

/-- The name in a header, where it stands, and the parameters after it. -/
structure HeaderName where
  text : Text
  span : Span
  isMethod : Bool
  parameters : ParameterList
deriving DecidableEq, Repr

namespace HeaderName

/-- Read a header from its name on; `after` is what follows the name. -/
def read (name : Token) (after : List Token) : HeaderName :=
  let plain (parameters : ParameterList) : HeaderName :=
    ⟨name.text, name.start, false, parameters⟩
  match after with
  | [] => plain ⟨[], [], []⟩
  | t :: rest =>
    if t.kind == .doubleColon then
      match rest with
      | [] => plain (.faulty .missingMethodName t.start)
      | method :: rest =>
        if method.isWord then
          let length := method.stop.endColumn - name.start.column
          ⟨name.text ++ ':' :: ':' :: method.text, { name.start with length := length }, true,
            .read .none rest⟩
        else plain (.faulty .missingMethodName t.start)
    else plain (.read .none (t :: rest))

end HeaderName

/-- What a header says: the signature if there is a name, and the problems. -/
structure Header where
  signature : Option Signature
  problems : List Problem
deriving DecidableEq, Repr

/-- Read the header of a routine of the given file: the word that begins it and what follows. -/
def Header.read (file : Path) (word : Token) (after : List Token) : Header :=
  let nameless : Header := ⟨none, [HeaderFault.missingName.problem word.start]⟩
  match after with
  | [] => nameless
  | name :: rest =>
    if name.isWord then
      let head := HeaderName.read name rest
      let signature : Signature :=
        { name := head.text
          kind := .of (word.isReserved "function") head.isMethod
          args := head.parameters.args
          keywords := head.parameters.keywords
          acceptsExtra := head.parameters.keywords.any fun k => isExtraKeyword k.name
          file := file
          nameSpan := head.span
          start := word.start
          stop := Statement.stop (word :: after) }
      ⟨some signature, head.parameters.problems⟩
    else nameless

end RoutineAtlas
