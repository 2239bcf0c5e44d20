import RoutineAtlas.Settings.Value

/-!
# Layers of settings

Settings come from several files, one laid over the other. Names are taken in small letters, and a
name may lead further: `a.b` is the field `b` of `a`, and `a[2]` the third item of the
list `a`. A table is merged into the table that it is laid over, any other value replaces what is
there.
-/

namespace RoutineAtlas

/-- A step of a name. -/
inductive KeyStep where
  | field (name : Text)
  /-- An item of a list; a negative number counts from the end. -/
  | item (index : Int)
deriving DecidableEq, Repr

namespace KeyStep

/-- A character of a name without further steps. -/
def isNameChar (c : Char) : Bool :=
  c.isAlphanum || c == ' ' || c == '_' || c == '-'

/-- The number between the brackets of a step; it has to fit into 64 bits, sign included. -/
def index? (t : Text) : Option Int :=
  let isBlank (c : Char) : Bool := c == ' ' || c == '\t'
  let inner := ((t.dropWhile isBlank).reverse.dropWhile isBlank).reverse
  let (negative, digits) : Bool × Text := match inner with
    | '-' :: rest => (true, rest)
    | rest => (false, rest)
  if digits.isEmpty || !digits.all Char.isDigit then none
  else
    let n : Int := Text.decimalValue digits
    let n := if negative then -n else n
    if fitsInt64 n then some n else none

/-- The steps that follow the first one. The bound is the length of the text. -/
def moreSteps? : (bound : Nat) → Text → Option (List KeyStep)
  | _, [] => some []
  | 0, _ => none
  | bound + 1, '.' :: rest =>
    let name := rest.takeWhile isNameChar
    if name.isEmpty then none
    else (moreSteps? bound (rest.dropWhile isNameChar)).map (field name :: ·)
  | bound + 1, '[' :: rest => do
    let i ← index? (rest.takeWhile (· != ']'))
    match rest.dropWhile (· != ']') with
    | _ :: more => (moreSteps? bound more).map (item i :: ·)
    | [] => none
  | _ + 1, _ => none

/-- The steps of a name. One that cannot be read as steps is a single name. -/
def ofText (t : Text) : List KeyStep :=
  let first := t.takeWhile isNameChar
  match moreSteps? t.length (t.dropWhile isNameChar) with
  | some rest => if first.isEmpty then [field t] else field first :: rest
  | none => [field t]

end KeyStep

namespace SettingValue

/-- The fields of a table. -/
abbrev Fields := List (Text × SettingValue)

/-- The fields with the one called `name` set. -/
def setField (fields : Fields) (name : Text) (v : SettingValue) : Fields :=
  match fields with
  | [] => [(name, v)]
  | field :: rest =>
    if field.1 == name then (name, v) :: rest else field :: setField rest name v

/-- The fields of a value; none if it is no table. -/
def fields : SettingValue → Fields
  | table _ fields => fields
  | _ => []

/-- The items of a value; none if it is no list. -/
def items : SettingValue → List SettingValue
  | list _ items => items
  | _ => []

/-- The value as a table with other fields. What was no table has no file. -/
def withFields (v : SettingValue) (fields : Fields) : SettingValue :=
  match v with
  | table origin _ => table origin fields
  | _ => table none fields

/-- The value as a list with other items. What was no list has no file. -/
def withItems (v : SettingValue) (items : List SettingValue) : SettingValue :=
  match v with
  | list origin _ => list origin items
  | _ => list none items

mutual

/-- The fields with a value put under a name. -/
def putField (fields : Fields) (name : Text) : SettingValue → Fields
  | table _ incoming =>
    let name := name.small
    setField fields name (merge ((fields.lookup name).getD (table none [])) incoming)
  | scalar origin v => setField fields name.small (scalar origin v)
  | list origin items => setField fields name.small (list origin items)

/-- A value with the fields of a table put into it. -/
def merge (target : SettingValue) : List (Text × SettingValue) → SettingValue
  | [] => target
  | (name, v) :: rest => merge (target.withFields (putField target.fields name v)) rest

end

/-- The missing value. -/
def absent : SettingValue :=
  scalar none .null

/-- The place in a list that an index means. -/
def place (items : List SettingValue) (index : Int) : Nat :=
  (if index < 0 then items.length + index else index).toNat

/-- The list with the item at a place set, after as many missing values as it needs. -/
def setItem (items : List SettingValue) (place : Nat) (v : SettingValue) : List SettingValue :=
  (items ++ List.replicate (place + 1 - items.length) absent).set place v

/-- The value with `v` put where the steps lead. Tables and lists are made on the way. -/
def put (v : SettingValue) : List KeyStep → SettingValue → SettingValue
  | [], here => here
  | [.field name], here => here.withFields (putField here.fields name v)
  | [.item index], here => here.withItems (setItem here.items (place here.items index) v)
  | .field name :: rest, here =>
    let inner := (here.fields.lookup name.small).getD absent
    here.withFields (setField here.fields name.small (v.put rest inner))
  | .item index :: rest, here =>
    let place := place here.items index
    here.withItems (setItem here.items place (v.put rest (here.items.getD place absent)))

/-- Fields laid over a value. -/
def layOver (fields : Fields) (base : SettingValue) : SettingValue :=
  fields.foldl (fun base field => field.2.put (KeyStep.ofText field.1.small) base) base

/-- The table of some layers, each laid over those before it. -/
def stack (layers : List Fields) : SettingValue :=
  layers.foldl (fun base fields => layOver fields base) (.table none [])

end SettingValue

end RoutineAtlas
