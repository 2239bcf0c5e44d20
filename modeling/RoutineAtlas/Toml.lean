import RoutineAtlas.Binary64

/-!
# TOML values

The values of a settings file written in TOML. A date or a time is kept as the text that is its
normal form.
-/

namespace RoutineAtlas

/-- The number fits into 64 bits, one of them for its sign. -/
def fitsInt64 (n : Int) : Bool :=
  -9223372036854775808 ≤ n && n ≤ 9223372036854775807

/-- A TOML value. -/
inductive Toml where
  | string (value : Text)
  | int (value : Int)
  | float (value : Binary64)
  | bool (value : Bool)
  | date (written : Text)
  | array (items : List Toml)
  | table (fields : List (Text × Toml))
deriving Repr, Inhabited

end RoutineAtlas
