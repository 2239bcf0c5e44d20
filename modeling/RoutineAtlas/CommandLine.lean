import RoutineAtlas.Report

/-!
# Command lines

The two commands of the program: `serve`, also called `lsp`, starts the language server, and `check`
reports the problems of some directories. Reading a command line stops at its first mistake.
-/

namespace RoutineAtlas

/-- What the program is asked to do. -/
inductive Command where
  | serve
  | check (roots : List Path) (json : Bool)
deriving DecidableEq, Repr

/-- Why a command line is not carried out. -/
inductive UsageError where
  /-- Help was asked for. -/
  | helpWanted
  /-- No command was given, which is answered with the help text. -/
  | commandMissing
  | commandUnknown
  | argumentUnknown
  | argumentMissing
  /-- A value is given to a flag that takes none. -/
  | valueUnwanted
  | valueEmpty
  | flagRepeated
deriving DecidableEq, Repr

/-- An argument by its form. -/
inductive ArgumentForm where
  /-- The mark `--`, after which no argument is a flag. -/
  | endOfFlags
  | long (name : Text) (hasValue : Bool)
  /-- One or more flags of a letter each. -/
  | short (letters : Text)
  | plain
deriving DecidableEq, Repr

namespace ArgumentForm

/-- The form of an argument. -/
def ofText (t : Text) : ArgumentForm :=
  match t with
  | ['-', '-'] => endOfFlags
  | '-' :: '-' :: rest => long (rest.takeWhile (· != '=')) (rest.contains '=')
  | ['-'] => plain
  | '-' :: letters => short letters
  | _ => plain

/-- What becomes of a flag that every command knows: the help flag in its two forms. Nothing is
known of other flags. -/
def helpFlag? : ArgumentForm → Option UsageError
  | long name hasValue =>
    if name == "help".toList then some (if hasValue then .valueUnwanted else .helpWanted) else none
  | short ('h' :: _) => some .helpWanted
  | _ => none

end ArgumentForm

namespace Command

/-- Read the arguments of `serve`: it takes none. -/
def readServe : List Text → Except UsageError Command
  | [] => .ok serve
  | arg :: rest =>
    match ArgumentForm.ofText arg with
    | .endOfFlags => if rest.isEmpty then .ok serve else .error .argumentUnknown
    | form => .error (form.helpFlag?.getD .argumentUnknown)

/-- Arguments of `check` that have been read: the directories, which are looked at no sooner than
the next flag or the end, and whether the JSON flag was there. -/
structure CheckArguments where
  roots : List Text
  json : Bool
deriving DecidableEq, Repr

namespace CheckArguments

/-- Look at the directories that were named. -/
def examined (a : CheckArguments) : Except UsageError CheckArguments :=
  if a.roots.any (·.isEmpty) then .error .valueEmpty else .ok a

/-- The arguments with one more directory. -/
def addRoot (a : CheckArguments) (root : Text) : CheckArguments :=
  { a with roots := a.roots ++ [root] }

/-- The arguments with a flag. -/
def addFlag (a : CheckArguments) (form : ArgumentForm) : Except UsageError CheckArguments :=
  if form == .long "json".toList false then do
    let a ← a.examined
    if a.json then throw .flagRepeated else return { a with json := true }
  else if form == .long "json".toList true then .error .valueUnwanted
  else
    match form.helpFlag? with
    | some .helpWanted => do
      let _ ← a.examined
      throw .helpWanted
    | some e => .error e
    | none => .error .argumentUnknown

/-- The command that the arguments make. -/
def finish (a : CheckArguments) : Except UsageError Command := do
  let a ← a.examined
  if a.roots.isEmpty then throw .argumentMissing
  else return .check (a.roots.map Path.ofText) a.json

end CheckArguments

/-- Read the arguments of `check`. -/
def readCheck (a : CheckArguments) : List Text → Except UsageError Command
  | [] => a.finish
  | arg :: rest =>
    match ArgumentForm.ofText arg with
    | .endOfFlags => (rest.foldl CheckArguments.addRoot a).finish
    | .plain => readCheck (a.addRoot arg) rest
    | form => do readCheck (← a.addFlag form) rest

/-- The names of the commands. -/
def names : List Text :=
  ["serve", "lsp", "check", "help"].map String.toList

/-- Read the arguments of `help`: the name of a command, which has no commands of its own. -/
def readHelp : List Text → UsageError
  | [] => .helpWanted
  | [name] => if names.contains name then .helpWanted else .commandUnknown
  | _ => .commandUnknown

/-- Read a command line without the name of the program. -/
def read (args : List Text) : Except UsageError Command :=
  match args with
  | [] => .error .commandMissing
  | arg :: rest =>
    if arg == "serve".toList || arg == "lsp".toList then readServe rest
    else if arg == "check".toList then readCheck ⟨[], false⟩ rest
    else if arg == "help".toList then .error (readHelp rest)
    else
      match ArgumentForm.ofText arg with
      | .endOfFlags =>
        match rest with
        | [] => .error .commandMissing
        | name :: _ =>
          .error (if names.contains name then .argumentUnknown else .commandUnknown)
      | .plain => .error .commandUnknown
      | form => .error (form.helpFlag?.getD .argumentUnknown)

end Command

/-- What a run of the program leaves behind. -/
structure RunResult where
  status : Nat
  output : String
  /-- The message for the error stream. -/
  complaint : Option String
deriving DecidableEq, Repr

namespace RunResult

/-- The result of a check: the status is two if files could not be read or nothing was checked, and
one if a problem is an error. -/
def ofCheck (result : Except CheckError Report) (asJson : Bool) : RunResult :=
  match result with
  | .error e => ⟨2, "", some ("idl-index check failed: " ++ e.message ++ "\n")⟩
  | .ok r =>
    let status := if !r.failed.isEmpty then 2 else if r.count .error != 0 then 1 else 0
    ⟨status, r.output asJson, none⟩

end RunResult

namespace UsageError

/-- The exit status: asking for help is no failure. -/
def status : UsageError → Nat
  | helpWanted => 0
  | _ => 2

end UsageError

end RoutineAtlas
