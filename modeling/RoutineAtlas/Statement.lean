import RoutineAtlas.Token

/-!
# Statements

A statement ends with its line, unless the line is continued, or at an `&`. Comments, continuations
and separators are no part of it.
-/

namespace RoutineAtlas

/-- A statement as its tokens. -/
abbrev Statement := List Token

namespace Statement

/-- The statement as a list of statements: none if nothing has been collected. -/
def collected (s : Statement) : List Statement :=
  if s.isEmpty then [] else [s]

/-- The statements that the tokens ahead complete. `current` is what has been collected,
`continued` says that a continuation came since the last token, and `lastLine` is the line of that
token. -/
def splitFrom (current : Statement) (continued : Bool) (lastLine : Option Nat) :
    List Token → List Statement
  | [] => collected current
  | t :: ts =>
    if t.kind.isComment then splitFrom current continued lastLine ts
    else if t.kind == .continuation then splitFrom current true lastLine ts
    else
      let broken := lastLine.any (· != t.start.line) && !continued
      let finished := if broken then collected current else []
      let kept := if broken then [] else current
      if t.kind == .ampersand then
        finished ++ collected kept ++ splitFrom [] false (some t.start.line) ts
      else finished ++ splitFrom (kept ++ [t]) false (some t.start.line) ts

/-- The statements of a file. -/
def split (tokens : List Token) : List Statement :=
  splitFrom [] false none tokens

/-- The last stretch of a statement. -/
def stop (s : Statement) : Span :=
  (s.getLast?.map (·.stop)).getD ⟨0, 0, 0⟩

/-- The statement is the one given reserved word. -/
def isSingle (s : Statement) (word : String) : Bool :=
  match s with
  | [t] => t.isReserved word
  | _ => false

end Statement

/-- A token in its statement, with what stands before it (the nearest first) and after it. -/
structure Place where
  before : List Token
  token : Token
  after : List Token
deriving DecidableEq, Repr

namespace Place

/-- The token right before. -/
def prev? (p : Place) : Option Token :=
  p.before.head?

/-- The token right after. -/
def next? (p : Place) : Option Token :=
  p.after.head?

/-- The token right before satisfies `f`. -/
def prevIs (p : Place) (f : Token → Bool) : Bool :=
  p.prev?.any f

/-- The token right after satisfies `f`. -/
def nextIs (p : Place) (f : Token → Bool) : Bool :=
  p.next?.any f

/-- A comma or an opening parenthesis: what stands before an item of a call. -/
def separates (t : Token) : Bool :=
  t.kind == .comma || t.kind == .leftParen

/-- The token is written where a call names a keyword, as in `KW=` or `/KW`. -/
def isKeywordName (p : Place) : Bool :=
  match p.before with
  | [] => false
  | prev :: earlier =>
    (p.nextIs (·.isOperator "=") && separates prev) ||
      (prev.isOperator "/" && earlier.head?.any separates)

/-- The token starts a statement, perhaps one within another, such as after `then`. -/
def startsStatement (p : Place) : Bool :=
  match p.before with
  | [] => true
  | prev :: _ =>
    if prev.kind == .reserved then statementLeaders.contains prev.key
    else prev.kind == .colon && p.before.length == 2

/-- How many blocks the token opens less how many it closes. -/
def blockDelta (p : Place) : Int :=
  if p.token.kind == .reserved && !p.isKeywordName then
    if blockOpeners.contains p.token.key then 1
    else if blockClosers.contains p.token.key then -1
    else 0
  else 0

/-- The places of some tokens that follow those of `before`. -/
def placesFrom (before : List Token) : List Token → List Place
  | [] => []
  | t :: ts => ⟨before, t, ts⟩ :: placesFrom (t :: before) ts

end Place

namespace Statement

/-- Every token of a statement in its place. -/
def places (s : Statement) : List Place :=
  Place.placesFrom [] s

/-- How many blocks a statement opens less how many it closes. -/
def blockDelta (s : Statement) : Int :=
  s.places.foldl (fun total p => total + p.blockDelta) 0

/-- The depth of open blocks after a statement; a surplus of closing words is not kept. -/
def depthAfter (s : Statement) (depth : Nat) : Nat :=
  (depth + s.blockDelta).toNat

end Statement

end RoutineAtlas
