import RoutineAtlas.Analysis.Check
import RoutineAtlas.Path.Map

/-!
# The table of routines

All routines of a workspace by key. A key keeps every definition that a file has for it, in the
order in which the files came, and a call means the last one.
-/

namespace RoutineAtlas

/-- The table of routines: the definitions of every key, and the keys that every file defines. -/
structure SymbolTable where
  entries : List (RoutineKey × List Signature)
  byFile : PathMap (List RoutineKey)
deriving DecidableEq, Repr

namespace SymbolTable

/-- The table without routines. -/
def empty : SymbolTable :=
  ⟨[], []⟩

/-- The number of keys. -/
def size (t : SymbolTable) : Nat :=
  t.entries.length

/-- The definitions of a key, oldest first. -/
def definitions (t : SymbolTable) (key : RoutineKey) : List Signature :=
  (t.entries.lookup key).getD []

/-- The routine that calls of a key mean. -/
def resolve? (t : SymbolTable) (key : RoutineKey) : Option Signature :=
  (t.definitions key).getLast?

/-- The keys of a file. -/
def keysOf (t : SymbolTable) (path : Path) : List RoutineKey :=
  (t.byFile.get? path).getD []

/-- The keys of the table that satisfy `p`, in their order. -/
def keysWhere (t : SymbolTable) (p : RoutineKey → Bool) : List RoutineKey :=
  ((t.entries.map (·.1)).filter p).mergeSort RoutineKey.le

/-- Every routine of the table, by key. -/
def routines (t : SymbolTable) : List Signature :=
  (t.keysWhere fun _ => true).filterMap t.resolve?

/-- The routines of that name, of whatever kind. -/
def resolveAny (t : SymbolTable) (name : Text) : List Signature :=
  (t.keysWhere fun key => key.name == name.lower).filterMap t.resolve?

/-- The keys of the methods of that name, functions or not, of whatever class. -/
def methodsNamed (t : SymbolTable) (name : Text) (isFunction : Bool) : List RoutineKey :=
  t.keysWhere fun key =>
    key.kind.isMethod && key.kind.isFunction == isFunction && key.methodName.sameName name

/-- Entries with the definitions of a key changed by `f`. A key without definitions has no
entry. -/
def updateEntries (key : RoutineKey) (f : List Signature → List Signature) :
    List (RoutineKey × List Signature) → List (RoutineKey × List Signature)
  | [] => if (f []).isEmpty then [] else [(key, f [])]
  | entry :: rest =>
    if entry.1 == key then
      if (f entry.2).isEmpty then rest else (key, f entry.2) :: rest
    else entry :: updateEntries key f rest

/-- The table with the definitions of a key changed by `f`. -/
def update (t : SymbolTable) (key : RoutineKey) (f : List Signature → List Signature) :
    SymbolTable :=
  { t with entries := updateEntries key f t.entries }

/-- The definitions without those of a file. -/
def withoutFile (path : Path) (defs : List Signature) : List Signature :=
  defs.filter fun d => !d.file.same path

/-- The definitions with that of a file replaced, or added at the end. A definition that stays the
same keeps its old value. -/
def withDefinition (path : Path) (s : Signature) : List Signature → List Signature
  | [] => [s]
  | d :: ds =>
    if d.file.same path then (if d.same s then d else s) :: ds
    else d :: withDefinition path s ds

/-- The definition that a file has for a key. -/
def definitionIn? (t : SymbolTable) (path : Path) (key : RoutineKey) : Option Signature :=
  (t.definitions key).find? fun d => d.file.same path

/-- Drop the definitions that a file has for some keys. -/
def dropKeys (t : SymbolTable) (path : Path) (keys : List RoutineKey) : SymbolTable :=
  keys.foldl (fun t key => t.update key (withoutFile path)) t

/-- Registering `s` for a file changes how its routine can be called. -/
def changesInterface (t : SymbolTable) (path : Path) (s : Signature) : Bool :=
  match t.definitionIn? path s.key with
  | some d => !d.sameInterface s
  | none => true

/-- Register signatures of a file one after the other. The answer also names the keys whose
interface changed on the way. -/
def register (t : SymbolTable) (path : Path) : List Signature → List RoutineKey × SymbolTable
  | [] => ([], t)
  | s :: rest =>
    let (changed, result) := (t.update s.key (withDefinition path s)).register path rest
    (if t.changesInterface path s then s.key :: changed else changed, result)

/-- Replace the definitions of a file. The answer also names, once each, the keys whose interface
changed: the file no longer defines them, or defines them anew, or with other parameters. A
definition that has only moved is replaced without being named. -/
def replaceFile (t : SymbolTable) (path : Path) (signatures : List Signature) :
    List RoutineKey × SymbolTable :=
  let newKeys := (signatures.map (·.key)).eraseDups
  let dropped := (t.keysOf path).filter fun key => !newKeys.contains key
  let cleared := { t.dropKeys path dropped with byFile := t.byFile.erase path }
  let (changed, result) := cleared.register path signatures
  let byFile := if newKeys.isEmpty then result.byFile else result.byFile.insert path newKeys
  ((dropped ++ changed).eraseDups, { result with byFile := byFile })

/-- Drop everything a file defines. The answer also names the keys it defined. -/
def removeFile (t : SymbolTable) (path : Path) : List RoutineKey × SymbolTable :=
  let keys := t.keysOf path
  (keys, { t.dropKeys path keys with byFile := t.byFile.erase path })

/-- The last definition of a key outside of a file. -/
def routineOutside? (t : SymbolTable) (path : Path) (key : RoutineKey) : Option Signature :=
  (withoutFile path (t.definitions key)).getLast?

/-- The one method of that name that a file can call without its class. -/
def methodOutside? (t : SymbolTable) (path : Path) (name : Text) (isFunction : Bool) :
    Option Signature :=
  match (t.methodsNamed name isFunction).filterMap (t.routineOutside? path) with
  | [s] => some s
  | _ => none

/-- The routines that a file can call beyond its own: all but those it has registered itself. -/
def excluding (t : SymbolTable) (path : Path) : RoutineLookup :=
  ⟨t.routineOutside? path, t.methodOutside? path⟩

end SymbolTable

end RoutineAtlas
