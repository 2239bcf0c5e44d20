import RoutineAtlas.Text.Blank

/-!
# Settings

What a user can choose about an index and its answers.
-/

namespace RoutineAtlas

/-- The settings of a workspace. -/
structure Settings where
  /-- Patterns for the names of the files to index. -/
  filePatterns : List Text
  hover : Bool
  semanticTokens : Bool
  /-- The largest number of completions offered at once. -/
  completionLimit : Nat
  /-- Check a file on every edit, and not only when it is saved. -/
  checkOnChange : Bool
  /-- Numbers of problems that are never reported. -/
  disabledProblems : List Nat
deriving DecidableEq, Repr

namespace Settings

/-- The settings where nothing has been chosen. -/
def default : Settings :=
  ⟨["*.pro".toList], true, true, 50, true, []⟩

/-- Problems of that number are never reported. -/
def isDisabled (s : Settings) (code : Nat) : Bool :=
  s.disabledProblems.contains code

end Settings

end RoutineAtlas
