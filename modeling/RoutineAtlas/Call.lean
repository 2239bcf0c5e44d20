import RoutineAtlas.Routine.Kind
import RoutineAtlas.Statement

/-!
# Calls

A call as it is written: the name, the keywords passed and the number of positional arguments. The
items of a call are separated by commas outside of brackets; a call with parentheses ends at the
closing one, any other at the end of its statement or before `else`.
-/

namespace RoutineAtlas

/-- A keyword passed by a caller. -/
structure PassedKeyword where
  name : Text
  span : Span
deriving DecidableEq, Repr

/-- A call. -/
structure CallSite where
  /-- The name as written; `class::method` where the class of a method is given. -/
  name : Text
  kind : RoutineKind
  span : Span
  keywords : List PassedKeyword
  positional : Nat
  /-- The number of the scope that the call is in. -/
  scope : Nat
  /-- The last token of the call. -/
  stop : Span
deriving DecidableEq, Repr

namespace CallSite

/-- What the called routine is known by. -/
def key (c : CallSite) : RoutineKey :=
  .of c.name c.kind

/-- A method called without its class: only the method's own name is known. -/
def isUnqualifiedMethod (c : CallSite) : Bool :=
  c.kind.isMethod && c.name.afterColons?.isNone

/-- The cursor is within the call. -/
def spans (c : CallSite) (here : Cursor) : Bool :=
  c.span.encloses c.stop here

end CallSite

/-- What is passed in a call. -/
structure PassedItems where
  keywords : List PassedKeyword
  positional : Nat
  /-- The last token of the items. -/
  stop : Span
deriving DecidableEq, Repr

namespace PassedItems

/-- The keyword that an item of a call passes, given the tokens from its first on. An item that
passes none is positional. -/
def keyword? (item : List Token) : Option PassedKeyword :=
  match item with
  | first :: second :: _ =>
    if first.isWord && second.isOperator "=" then some ⟨first.text, first.start⟩
    else if first.isOperator "/" && second.isWord then some ⟨second.text, second.start⟩
    else none
  | _ => none

/-- Put the item that starts the tokens `item` before those read after it; `isEmpty` says that the
item has no tokens, and then it passes nothing. -/
def add (item : List Token) (isEmpty : Bool) (rest : PassedItems) : PassedItems :=
  if isEmpty then rest
  else
    match keyword? item with
    | some k => { rest with keywords := k :: rest.keywords }
    | none => { rest with positional := rest.positional + 1 }

/-- The token ends an item outside of brackets. -/
def endsItem (parens : Bool) (t : Token) : Bool :=
  t.kind == .comma || (if parens then t.kind == .rightParen else t.isReserved "else")

/-- What a bracket adds to the depth of open brackets. -/
def depthDelta (t : Token) : Int :=
  if t.kind.opens then 1 else if t.kind.closes then -1 else 0

/-- Read the items of a call. `item` holds the tokens from the first of the item at hand on,
`isEmpty` says that none of them has been read, `depth` counts the brackets that are open, and
`stop` is the last token read. -/
def readFrom (parens : Bool) (item : List Token) (isEmpty : Bool) (depth : Int) (stop : Span) :
    List Token → PassedItems
  | [] => add item isEmpty ⟨[], 0, stop⟩
  | t :: ts =>
    if depth == 0 && endsItem parens t then
      if t.kind == .comma then add item isEmpty (readFrom parens ts true 0 t.stop ts)
      else add item isEmpty ⟨[], 0, if parens then t.stop else stop⟩
    else readFrom parens item false (depth + depthDelta t) t.stop ts

/-- The items of a call whose name ends in the token `last`, given what follows it. A call of a
function has its items in parentheses, any other after a comma. -/
def read (isFunction : Bool) (last : Token) (after : List Token) : PassedItems :=
  match after with
  | [] => ⟨[], 0, last.stop⟩
  | t :: ts =>
    if t.kind == (if isFunction then .leftParen else .comma) then
      readFrom isFunction ts true 0 t.stop ts
    else ⟨[], 0, last.stop⟩

end PassedItems

/-- The name of a method with the classes before it: its text, its last token and what follows. -/
structure MethodName where
  text : Text
  last : Token
  after : List Token
deriving DecidableEq, Repr

/-- Extend a method name by every `::` and word that follow. -/
def MethodName.extend (text : Text) (last : Token) : List Token → MethodName
  | [] => ⟨text, last, []⟩
  | [t] => ⟨text, last, [t]⟩
  | t :: w :: rest =>
    if t.kind == .doubleColon && w.isWord then extend (text ++ ':' :: ':' :: w.text) w rest
    else ⟨text, last, t :: w :: rest⟩

namespace Place

/-- The method name that starts at the place. -/
def methodName (p : Place) : MethodName :=
  .extend p.token.text p.token p.after

/-- The method called at the place is called with parentheses. -/
def methodHasParens (p : Place) : Bool :=
  p.methodName.after.head?.any fun t => t.kind == .leftParen

/-- The call of the given kind whose name starts at the place. -/
def call (p : Place) (kind : RoutineKind) (scope : Nat) : CallSite :=
  let name : MethodName :=
    if kind.isMethod then p.methodName else ⟨p.token.text, p.token, p.after⟩
  let items := PassedItems.read kind.isFunction name.last name.after
  ⟨name.text, kind, p.token.start, items.keywords, items.positional, scope, items.stop⟩

end Place

end RoutineAtlas
