import RoutineAtlas.Disk
import RoutineAtlas.Json.Read
import RoutineAtlas.Settings
import RoutineAtlas.Settings.Layer
import RoutineAtlas.Toml.Document

/-!
# Loading settings

The settings of a workspace come from the user's own file and, laid over it, the file in the root
directory of the workspace. Each is written in TOML or in JSON.
-/

namespace RoutineAtlas.Settings

/-- The formats of a settings file. -/
inductive Format where
  | toml
  | json
deriving DecidableEq, Repr

namespace Format

/-- The extension of files in the format. -/
def extension : Format → Text
  | toml => "toml".toList
  | json => "json".toList

/-- The fields that a text in the format gives; nothing if it is malformed. -/
def fields? (f : Format) (file : Path) (t : Text) : Option SettingValue.Fields :=
  match f with
  | toml => (Toml.read? t).map (SettingValue.ofTomlFields file)
  | json => do
    match ← Json.read? (String.ofList t) with
    | .object fields => some (SettingValue.ofJsonFields file fields)
    | _ => none

end Format

/-- The settings file with some name before its extension. A file with that name and no extension is
in the way of all others. -/
def findFile? (disk : Disk) (stem : Path) : Option (Path × Format) :=
  if disk.isFile stem then none
  else
    let candidates := [Format.toml, Format.json].map fun f =>
      (Path.mk (stem.spelling ++ FileName.ofText ('.' :: f.extension)), f)
    candidates.find? fun candidate => disk.isFile candidate.1

/-- The text without a byte order mark at its start. -/
def withoutMark (t : Text) : Text :=
  match t with
  | '\uFEFF' :: rest => rest
  | _ => t

/-- The fields of the settings file with some name before its extension, if there is one. A file
that is no text counts for nothing. -/
def readFile (disk : Disk) (stem : Path) : Except SettingsError SettingValue.Fields :=
  match findFile? disk stem with
  | none => .ok []
  | some (file, format) =>
    let full := (Disk.absolute disk.start).join file
    let shown := full.relativeTo (Disk.absolute disk.start)
    match disk.read? file with
    | none => .ok []
    | some content =>
      match format.fields? shown (withoutMark content) with
      | some fields => .ok fields
      | none => .error .malformed

/-- The settings as the fields that a file would give them. -/
def toFields (s : Settings) : SettingValue.Fields :=
  let bool (b : Bool) : SettingValue := .scalar none (.bool b)
  let int (n : Nat) : SettingValue := .scalar none (.int n)
  [("file_patterns".toList, .list none (s.filePatterns.map fun t => .scalar none (.string t))),
    ("hover".toList, bool s.hover),
    ("semantic_tokens".toList, bool s.semanticTokens),
    ("completion_limit".toList, int s.completionLimit),
    ("post_process_on_change".toList, bool s.checkOnChange),
    ("disabled_problems".toList, .list none (s.disabledProblems.map int))]

/-- The settings that a table gives. -/
def ofTable (t : SettingValue) : Except SettingsError Settings := do
  let get (key : String) : SettingValue := (t.fields.lookup key.toList).getD .absent
  let filePatterns ← (get "file_patterns").toList SettingValue.toText "file_patterns"
  let hover ← (get "hover").toBool "hover"
  let semanticTokens ← (get "semantic_tokens").toBool "semantic_tokens"
  let completionLimit ← (get "completion_limit").toNat "completion_limit"
  let checkOnChange ← (get "post_process_on_change").toBool "post_process_on_change"
  let disabledProblems ← (get "disabled_problems").toList SettingValue.toNat16 "disabled_problems"
  return ⟨filePatterns, hover, semanticTokens, completionLimit, checkOnChange, disabledProblems⟩

/-- Load the settings of the workspace in the directory `root` for the user whose home is `home`.
The files are laid over each other, and what comes of it over the settings where nothing has been
chosen. Semantic tokens are turned off, whatever the files say, where they cannot be shown. -/
def load (disk : Disk) (home root : Path) (showsSemanticTokens : Bool) :
    Except SettingsError Settings := do
  if root.text?.isNone then throw .unnamedRoot
  let user ← readFile disk (home.join (.ofString ".config/idl-index/settings"))
  let workspace ← readFile disk (root.join (.ofString ".idl-index"))
  let forced : SettingValue.Fields :=
    if showsSemanticTokens then []
    else [("semantic_tokens".toList, .scalar none (.bool false))]
  let files := SettingValue.stack [user, workspace]
  ofTable (SettingValue.stack [Settings.default.toFields, files.fields, forced])

end RoutineAtlas.Settings
