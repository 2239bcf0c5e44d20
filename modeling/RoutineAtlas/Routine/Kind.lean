import RoutineAtlas.Text.Case

/-!
# Kinds and keys of routines

Procedures and functions, free or methods of a class. A routine is known by its key: its name in
small letters and its kind.
-/

namespace RoutineAtlas

/-- The kinds of routine. -/
inductive RoutineKind where
  | procedure
  | function
  | procedureMethod
  | functionMethod
deriving DecidableEq, Repr

namespace RoutineKind

/-- The kind of a routine that is a function or not, and a method or not. -/
def of (isFunction isMethod : Bool) : RoutineKind :=
  match isFunction, isMethod with
  | false, false => procedure
  | true, false => function
  | false, true => procedureMethod
  | true, true => functionMethod

/-- Routines of this kind give a value. -/
def isFunction : RoutineKind → Bool
  | function | functionMethod => true
  | procedure | procedureMethod => false

/-- Routines of this kind belong to a class. -/
def isMethod : RoutineKind → Bool
  | procedureMethod | functionMethod => true
  | procedure | function => false

/-- The word that begins the definition of a routine of this kind. -/
def keyword (k : RoutineKind) : String :=
  if k.isFunction then "function" else "pro"

/-- What a routine of this kind is called in prose. -/
def label : RoutineKind → String
  | procedure => "procedure"
  | function => "function"
  | procedureMethod => "procedure method"
  | functionMethod => "function method"

/-- The place of a kind in the order of kinds. -/
def rank : RoutineKind → Nat
  | procedure => 0
  | function => 1
  | procedureMethod => 2
  | functionMethod => 3

end RoutineKind

/-- The text after the last `::`, if there is one. -/
def Text.afterColons? : Text → Option Text
  | [] => none
  | c :: cs =>
    match Text.afterColons? cs with
    | some method => some method
    | none =>
      match c, cs with
      | ':', ':' :: rest => some rest
      | _, _ => none

/-- What a routine is known by. -/
structure RoutineKey where
  /-- The name in small letters; of a method, `class::method`. -/
  name : Text
  kind : RoutineKind
deriving DecidableEq, Repr

namespace RoutineKey

/-- The key of a routine by its name as written. -/
def of (name : Text) (kind : RoutineKind) : RoutineKey :=
  ⟨name.lower, kind⟩

/-- The part of the name after the class, or the whole name. -/
def methodName (k : RoutineKey) : Text :=
  k.name.afterColons?.getD k.name

/-- The order of keys: by name, then by kind. -/
def le (a b : RoutineKey) : Bool :=
  if a.name == b.name then a.kind.rank ≤ b.kind.rank else Text.le a.name b.name

end RoutineKey

end RoutineAtlas
