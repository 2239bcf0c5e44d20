import RoutineAtlas.Binary64

/-!
# JSON values

The values that settings files, reports and the messages of an editor are written in.
-/

namespace RoutineAtlas

/-- A JSON value. A number with a fraction or an exponent is a `float`, and so are the negative zero
and whole numbers that do not fit into 64 bits. -/
inductive Json where
  | null
  | bool (value : Bool)
  | int (value : Int)
  | float (value : Binary64)
  | string (value : String)
  | array (items : List Json)
  | object (fields : List (String × Json))
deriving BEq, Repr, Inhabited

namespace Json

/-- The member called `name` of an object; of several with that name, the last. -/
def get? (v : Json) (name : String) : Option Json :=
  match v with
  | object fields => (fields.reverse.find? fun field => field.1 == name).map (·.2)
  | _ => none

/-- A natural number as a JSON value. -/
def ofNat (n : Nat) : Json :=
  int n

/-- The number held by a value, if it is a natural number. -/
def nat? : Json → Option Nat
  | int (.ofNat n) => some n
  | _ => none

/-- The string held by a value. -/
def string? : Json → Option String
  | string s => some s
  | _ => none

/-- The truth value held by a value. -/
def bool? : Json → Option Bool
  | bool b => some b
  | _ => none

/-- The items of an array. -/
def array? : Json → Option (List Json)
  | array items => some items
  | _ => none

/-- An object of the members that are present. -/
def record (fields : List (String × Option Json)) : Json :=
  object (fields.filterMap fun field => field.2.map fun value => (field.1, value))

/-- A value that may be missing, written as null. -/
def orNull : Option Json → Json
  | some v => v
  | none => null

end Json

end RoutineAtlas
