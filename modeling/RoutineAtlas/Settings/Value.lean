import RoutineAtlas.Json
import RoutineAtlas.Path
import RoutineAtlas.Text.Quoted
import RoutineAtlas.Text.Small
import RoutineAtlas.Toml

/-!
# Values of settings

What a settings file says about a setting, and how it is taken for a truth value, a number, a string
or a list. The kinds are taken generously: a number may be written as a string, and a truth value as
a number or as a word.
-/

namespace RoutineAtlas

/-- A value that holds no others. -/
inductive SettingScalar where
  | null
  | bool (value : Bool)
  | int (value : Int)
  | float (value : Binary64)
  | string (value : Text)
deriving DecidableEq, Repr

/-- The value of a setting, with the file that it stands in if there is one. -/
inductive SettingValue where
  | scalar (origin : Option Path) (value : SettingScalar)
  | list (origin : Option Path) (items : List SettingValue)
  | table (origin : Option Path) (fields : List (Text × SettingValue))
deriving Repr, Inhabited

/-- What stands where another kind of value is wanted. -/
inductive FoundKind where
  | nothing
  | sequence
  | map
  | string (value : Text)
  | bool (value : Bool)
  /-- An integer that has not been looked at as a number of some size. -/
  | integer (value : Int)
  | signed (value : Int)
  | unsigned (value : Nat)
  | float (value : Binary64)
deriving DecidableEq, Repr

namespace FoundKind

/-- What a message says has been found. -/
def message : FoundKind → String
  | nothing => "unit value"
  | sequence => "sequence"
  | map => "map"
  | string t => "string " ++ String.ofList t.quoted
  | bool b => "boolean `" ++ toString b ++ "`"
  | integer n => "integer `" ++ toString n ++ "`"
  | signed n => "64-bit integer `" ++ toString n ++ "`"
  | unsigned n => "64-bit unsigned integer `" ++ toString n ++ "`"
  | float x => "floating point `" ++ String.ofList x.fractionText ++ "`"

end FoundKind

/-- What a setting has to be. -/
inductive WantedKind where
  | bool
  | integer
  | unsigned64
  | unsigned16
  | string
  | sequence
deriving DecidableEq, Repr

namespace WantedKind

/-- What a message says is wanted. -/
def message : WantedKind → String
  | bool => "a boolean"
  | integer => "an integer"
  | unsigned64 => "an unsigned 64 bit or less integer"
  | unsigned16 => "an unsigned 16 bit integer"
  | string => "a string"
  | sequence => "a sequence"

end WantedKind

/-- Why settings cannot be read. -/
inductive SettingsError where
  /-- A settings file cannot be read at all. -/
  | malformed
  /-- The path of the workspace is no text. -/
  | unnamedRoot
  /-- A setting is of the wrong kind. The message may name the setting and its file. -/
  | mismatch (found : FoundKind) (wanted : WantedKind) (key : Option String)
      (origin : Option Path)
deriving DecidableEq, Repr

namespace SettingsError

/-- What a report says about the failure. -/
def message : SettingsError → String
  | malformed => "Build err"
  | unnamedRoot => "Can't convert root_dir to str"
  | mismatch found wanted key origin =>
    let which := (key.map fun k => " for key `" ++ k ++ "`").getD ""
    let place := (origin.map fun p => " in " ++ p.toString).getD ""
    "invalid type: " ++ found.message ++ ", expected " ++ wanted.message ++ which ++ place

end SettingsError

namespace SettingValue

mutual

/-- The value that a file in TOML gives. -/
def ofToml (file : Path) : Toml → SettingValue
  | .string t => .scalar file (.string t)
  | .int n => .scalar file (.int n)
  | .float x => .scalar file (.float x)
  | .bool b => .scalar file (.bool b)
  | .date t => .scalar file (.string t)
  | .array items => .list file (ofTomlItems file items)
  | .table fields => .table file (ofTomlFields file fields)

/-- The values of the items of an array. -/
def ofTomlItems (file : Path) : List Toml → List SettingValue
  | [] => []
  | v :: rest => ofToml file v :: ofTomlItems file rest

/-- The values of the fields of a table. -/
def ofTomlFields (file : Path) : List (Text × Toml) → List (Text × SettingValue)
  | [] => []
  | (name, v) :: rest => (name, ofToml file v) :: ofTomlFields file rest

end

mutual

/-- The value that a file in JSON gives. A whole number that does not fit into 64 bits, sign
included, is kept as a number with a fraction. -/
def ofJson (file : Path) : Json → SettingValue
  | .null => .scalar file .null
  | .bool b => .scalar file (.bool b)
  | .int n => .scalar file (if fitsInt64 n then .int n else .float (.ofNat n.natAbs))
  | .float x => .scalar file (.float x)
  | .string s => .scalar file (.string s.toList)
  | .array items => .list file (ofJsonItems file items)
  | .object fields => .table file (ofJsonFields file fields)

/-- The values of the items of an array. -/
def ofJsonItems (file : Path) : List Json → List SettingValue
  | [] => []
  | v :: rest => ofJson file v :: ofJsonItems file rest

/-- The values of the members of an object. -/
def ofJsonFields (file : Path) : List (String × Json) → List (Text × SettingValue)
  | [] => []
  | (name, v) :: rest => (name.toList, ofJson file v) :: ofJsonFields file rest

end

/-- The file that a value stands in. -/
def origin : SettingValue → Option Path
  | scalar o _ => o
  | list o _ => o
  | table o _ => o

/-- The kind of a value that is taken as it stands. -/
def kind : SettingValue → FoundKind
  | scalar _ .null => .nothing
  | scalar _ (.bool b) => .bool b
  | scalar _ (.int n) => .integer n
  | scalar _ (.float x) => .float x
  | scalar _ (.string t) => .string t
  | list _ _ => .sequence
  | table _ _ => .map

/-- The failure of a value to be what is wanted. -/
def mismatch (v : SettingValue) (found : FoundKind) (wanted : WantedKind) (key : String) :
    SettingsError :=
  .mismatch found wanted (some key) v.origin

/-- The words for truth and falsehood. -/
def truthWord? (t : Text) : Option Bool :=
  if ["true", "on", "yes"].any fun word => word.toList == t then some true
  else if ["false", "off", "no"].any fun word => word.toList == t then some false
  else none

/-- The value as a truth value. -/
def toBool (v : SettingValue) (key : String) : Except SettingsError Bool :=
  match v with
  | scalar _ (.bool b) => .ok b
  | scalar _ (.int n) => .ok (n != 0)
  | scalar _ (.float x) => .ok (!x.isZero)
  | scalar _ (.string t) =>
    if t == ['1'] then .ok true
    else if t == ['0'] then .ok false
    else
      match truthWord? t.small with
      | some b => .ok b
      | none => .error (v.mismatch (.string t.small) .bool key)
  | _ => .error (v.mismatch v.kind .bool key)

/-- The natural number of 64 bits that a string writes. -/
def decimal? (t : Text) : Option Nat :=
  let digits := match t with
    | '+' :: rest => rest
    | rest => rest
  if digits.isEmpty || !digits.all Char.isDigit then none
  else
    let n := Text.decimalValue digits
    if n < 18446744073709551616 then some n else none

/-- The value as a natural number of 64 bits. -/
def toNat (v : SettingValue) (key : String) : Except SettingsError Nat :=
  match v with
  | scalar _ (.bool b) => .ok b.toNat
  | scalar _ (.int n) =>
    if 0 ≤ n then .ok n.toNat else .error (v.mismatch (.signed n) .unsigned64 key)
  | scalar _ (.float x) => .ok x.roundToNat
  | scalar _ (.string t) =>
    match truthWord? t.small, decimal? t with
    | some b, _ => .ok b.toNat
    | none, some n => .ok n
    | none, none => .error (v.mismatch (.string t) .integer key)
  | _ => .error (v.mismatch v.kind .integer key)

/-- The value as a natural number of 16 bits. -/
def toNat16 (v : SettingValue) (key : String) : Except SettingsError Nat := do
  let n ← v.toNat key
  if n < 65536 then return n else throw (.mismatch (.unsigned n) .unsigned16 (some key) none)

/-- The value as a string. -/
def toText (v : SettingValue) (key : String) : Except SettingsError Text :=
  match v with
  | scalar _ (.string t) => .ok t
  | scalar _ (.bool b) => .ok (toString b).toList
  | scalar _ (.int n) => .ok (toString n).toList
  | scalar _ (.float x) => .ok x.text
  | _ => .error (v.mismatch v.kind .string key)

/-- Convert the items of a list that follow the first `index` ones. -/
def convertFrom {α : Type} (convert : SettingValue → String → Except SettingsError α)
    (key : String) (index : Nat) : List SettingValue → Except SettingsError (List α)
  | [] => .ok []
  | v :: rest => do
    let a ← convert v (key ++ "[" ++ toString index ++ "]")
    return a :: (← convertFrom convert key (index + 1) rest)

/-- The value as a list, each item converted. Items are named by their places. -/
def toList {α : Type} (convert : SettingValue → String → Except SettingsError α)
    (v : SettingValue) (key : String) : Except SettingsError (List α) :=
  match v with
  | list _ items => convertFrom convert key 0 items
  | _ => .error (.mismatch v.kind .sequence none none)

end SettingValue

end RoutineAtlas
