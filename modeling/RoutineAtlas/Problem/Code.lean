/-!
# Problem codes

The kinds of problem an analysis can report. Each kind has a number that never changes its meaning:
0 to 9 for tokens, 10 to 19 for documentation blocks, 20 to 29 for the structure of routines, 50 to
69 for documentation against signatures, 100 to 119 for variables and calls.
-/

namespace RoutineAtlas

/-- How grave a problem is. -/
inductive Severity where
  | error
  | warning
  | information
deriving DecidableEq, Repr

/-- The kinds of problem. -/
inductive ProblemCode where
  | unknownToken
  | unterminatedString
  | invalidContinuation
  | danglingContinuation
  | unclosedDocBlock
  | malformedDocEntry
  | invalidRoutineHeader
  | missingEnd
  | duplicateRoutine
  | duplicateParameter
  | noArgsToDoc
  | noKwsToDoc
  | argMissingFromDocs
  | keywordMissingFromDocs
  | returnsOnProcedure
  | documentedParamMissing
  | unusedVariable
  | unknownKeyword
  | tooManyArguments
deriving DecidableEq, Repr

namespace ProblemCode

/-- Every kind of problem, by rising number. -/
def all : List ProblemCode :=
  [unknownToken, unterminatedString, invalidContinuation, danglingContinuation, unclosedDocBlock,
    malformedDocEntry, invalidRoutineHeader, missingEnd, duplicateRoutine, duplicateParameter,
    noArgsToDoc, noKwsToDoc, argMissingFromDocs, keywordMissingFromDocs, returnsOnProcedure,
    documentedParamMissing, unusedVariable, unknownKeyword, tooManyArguments]

/-- The number of a kind of problem. -/
def number : ProblemCode → Nat
  | unknownToken => 0
  | unterminatedString => 1
  | invalidContinuation => 2
  | danglingContinuation => 3
  | unclosedDocBlock => 10
  | malformedDocEntry => 11
  | invalidRoutineHeader => 20
  | missingEnd => 21
  | duplicateRoutine => 22
  | duplicateParameter => 23
  | noArgsToDoc => 50
  | noKwsToDoc => 51
  | argMissingFromDocs => 52
  | keywordMissingFromDocs => 53
  | returnsOnProcedure => 54
  | documentedParamMissing => 63
  | unusedVariable => 104
  | unknownKeyword => 110
  | tooManyArguments => 111

/-- The kind of problem with a given number. -/
def ofNumber? (n : Nat) : Option ProblemCode :=
  all.find? fun code => code.number == n

/-- A kind of problem is found again by its number. -/
@[simp] theorem ofNumber?_number (code : ProblemCode) : ofNumber? code.number = some code := by
  cases code <;> rfl

/-- How grave a kind of problem is. -/
def severity : ProblemCode → Severity
  | unknownToken | unterminatedString | invalidContinuation | invalidRoutineHeader | missingEnd
  | duplicateParameter | unknownKeyword | tooManyArguments => .error
  | argMissingFromDocs | keywordMissingFromDocs => .information
  | danglingContinuation | unclosedDocBlock | malformedDocEntry | duplicateRoutine | noArgsToDoc
  | noKwsToDoc | documentedParamMissing | returnsOnProcedure | unusedVariable => .warning

/-- The message of a kind of problem, without the name it is about. -/
def message : ProblemCode → String
  | unknownToken => "Unknown token"
  | unterminatedString => "String literal is missing its closing quote"
  | invalidContinuation =>
    "Line continuation can only be followed by a comment or the end of the line"
  | danglingContinuation => "Line continuation at the end of the file has nothing to continue"
  | unclosedDocBlock => "Documentation block is missing its closing \";-\""
  | malformedDocEntry =>
    "Malformed documentation entry, expected \"Name: attribute, attribute, ...\""
  | invalidRoutineHeader => "Invalid routine definition"
  | missingEnd => "Routine is missing its closing \"end\""
  | duplicateRoutine => "Routine is defined more than once in this file"
  | duplicateParameter => "Argument or keyword is declared more than once"
  | noArgsToDoc => "Documentation includes arguments, but none are present in routine definition"
  | noKwsToDoc => "Documentation includes keywords, but none are present in routine definition"
  | argMissingFromDocs => "Argument is missing from documentation"
  | keywordMissingFromDocs => "Keyword is missing from documentation"
  | returnsOnProcedure => "Procedures cannot document a return value"
  | documentedParamMissing => "Documented argument, keyword, or property does not exist"
  | unusedVariable => "Unused variable"
  | unknownKeyword => "Keyword does not exist for routine"
  | tooManyArguments => "Too many arguments for routine"

/-- A message followed by a quoted name, after a colon. -/
def messageColon (code : ProblemCode) (name : String) : String :=
  code.message ++ ": \"" ++ name ++ "\""

/-- The message of a kind of problem about `name`. The kinds that compare documentation with a
signature set the name off by a colon. -/
def messageFor (code : ProblemCode) (name : String) : String :=
  match code with
  | documentedParamMissing | argMissingFromDocs | keywordMissingFromDocs => code.messageColon name
  | _ => code.message ++ " \"" ++ name ++ "\""

end ProblemCode

end RoutineAtlas
