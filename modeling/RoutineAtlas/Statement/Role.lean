import RoutineAtlas.Call

/-!
# Roles of identifiers

What each identifier of a statement is there for: it gives a variable a value, reads one, names a
called routine, or is no variable at all. No expression is parsed; the tokens around an identifier
tell.
-/

namespace RoutineAtlas

/-- What an identifier is there for. -/
inductive IdentifierRole where
  | definition
  | reference
  /-- The name of a routine of that kind, called here. -/
  | call (kind : RoutineKind)
  /-- A field, a keyword name, a class or the like. -/
  | aside
deriving DecidableEq, Repr

/-- The assignment operators that also read what they assign to. -/
def updateOperators : List Text :=
  ["+=", "-=", "*=", "/=", "^=", "#=", "<=", ">=", "++", "--"].map Text.ofString

namespace Place

/-- The identifier takes the keys in a `foreach value, list, key do`. -/
def isForeachKey (p : Place) : Bool :=
  (p.before.getLast?.getD p.token).isReserved "foreach" &&
    (p.before.filter fun t => t.kind == .comma).length == 2 &&
    p.prevIs (·.kind == .comma) && p.nextIs (·.isReserved "do")

/-- The identifier is no variable and no called routine. `enclosing` is the innermost open
bracket. -/
def isAside (p : Place) (enclosing : Option TokenKind) : Bool :=
  p.nextIs (·.kind == .doubleColon) || p.prevIs (·.isReserved "inherits") ||
    (p.isKeywordName && !p.startsStatement) ||
    (p.nextIs (·.kind == .colon) && enclosing == some .leftBrace) ||
    (p.prevIs (·.kind == .leftBrace) &&
      (p.after.isEmpty || p.nextIs fun t => t.kind == .comma || t.kind == .rightBrace))

/-- The role of an identifier that names a variable or a routine which is no method. `known` are
the variables of the scope, in small letters. -/
def plainRole (p : Place) (known : List Text) : IdentifierRole :=
  let starts := p.startsStatement
  if starts && p.nextIs (·.isOperator "=") then .definition
  else if p.prevIs (·.isReserved "foreach") then .definition
  else if p.isForeachKey then .definition
  else if starts && p.nextIs (fun t => updateOperators.contains t.text) then .reference
  else if starts && (p.after.isEmpty || p.nextIs (·.kind == .comma)) then .call .procedure
  else if starts && p.nextIs (·.isReserved "else") then .call .procedure
  else if p.nextIs (·.kind == .leftParen) && !known.contains p.token.key then .call .function
  else .reference

/-- The role of an identifier, or of a reserved word that names a method. -/
def role (p : Place) (enclosing : Option TokenKind) (known : List Text) : IdentifierRole :=
  if p.prevIs fun t => t.isOperator "." || t.kind == .doubleColon then .aside
  else if p.prevIs (·.kind == .arrow) then .call (.of p.methodHasParens true)
  else if p.isAside enclosing then .aside
  else p.plainRole known

/-- The token has a role: it is an identifier, or a reserved word that names a method. -/
def hasRole (p : Place) : Bool :=
  p.token.kind == .identifier || (p.token.kind == .reserved && p.prevIs (·.kind == .arrow))

/-- The places with a role among some tokens, after those of `before`, with the brackets that are
open, the innermost first. -/
def rolesFrom (known : List Text) (before : List Token) (brackets : List TokenKind) :
    List Token → List (Place × IdentifierRole)
  | [] => []
  | t :: ts =>
    let brackets :=
      if t.kind.opens then t.kind :: brackets
      else if t.kind.closes then brackets.tail
      else brackets
    let p : Place := ⟨before, t, ts⟩
    let rest := rolesFrom known (t :: before) brackets ts
    if p.hasRole then (p, p.role brackets.head? known) :: rest else rest

end Place

namespace Statement

/-- The identifiers of a statement with their roles. -/
def roles (s : Statement) (known : List Text) : List (Place × IdentifierRole) :=
  Place.rolesFrom known [] [] s

/-- The statement declares members of a common block. -/
def isCommon (s : Statement) : Bool :=
  s.head?.any (·.isReserved "common")

/-- The members that a declaration of a common block names. -/
def commonMembers (s : Statement) : List Token :=
  (s.drop 2).filter fun t => t.kind == .identifier

/-- The variables that a statement gives a value to, in small letters. -/
def defined (s : Statement) : List Text :=
  let assigned := (s.roles []).filterMap fun (p, role) =>
    if role == .definition then some p.token.key else none
  if s.isCommon then assigned ++ s.commonMembers.map (·.key) else assigned

/-- The statement names no variables: it begins with a word that takes other names. -/
def isSilent (s : Statement) : Bool :=
  s.head?.any fun t => t.kind == .reserved && silentStatements.contains t.key

/-- The statement is a label to jump to. -/
def isLabel (s : Statement) : Bool :=
  match s with
  | [t, u] => t.kind == .identifier && u.kind == .colon
  | _ => false

end Statement

end RoutineAtlas
