import RoutineAtlas.Span
import RoutineAtlas.Token.Reserved

/-!
# Tokens

A token is a kind, the characters it was written with and where it stands.
-/

namespace RoutineAtlas

/-- The kinds of token. -/
inductive TokenKind where
  | identifier
  /-- A reserved word of the language. -/
  | reserved
  /-- A name after an exclamation mark, such as `!pi`. -/
  | systemVariable
  | number
  | string
  | operator
  | comma
  | colon
  /-- The `::` between a class and its method. -/
  | doubleColon
  /-- The `->` of a method call. -/
  | arrow
  | leftParen
  | rightParen
  | leftBracket
  | rightBracket
  | leftBrace
  | rightBrace
  /-- The `&` between two statements of a line. -/
  | ampersand
  /-- The `$` that joins a line to the next. -/
  | continuation
  | comment
  /-- The `;+` that opens a documentation block, with the rest of its line. -/
  | docOpen
  /-- The `;-` that closes a documentation block, with the rest of its line. -/
  | docClose
  | unknown
deriving DecidableEq, Repr

namespace TokenKind

/-- A comment of any sort, the delimiters of documentation blocks included. -/
def isComment : TokenKind → Bool
  | comment | docOpen | docClose => true
  | _ => false

/-- An opening bracket of any shape. -/
def opens : TokenKind → Bool
  | leftParen | leftBracket | leftBrace => true
  | _ => false

/-- A closing bracket of any shape. -/
def closes : TokenKind → Bool
  | rightParen | rightBracket | rightBrace => true
  | _ => false

end TokenKind

/-- A token: its kind, its characters and its first and last stretch of source. A token within one
line, as every scanned token is, has the same span twice. -/
structure Token where
  kind : TokenKind
  text : Text
  start : Span
  stop : Span
deriving DecidableEq, Repr

namespace Token

/-- A token within one line. -/
def single (kind : TokenKind) (text : Text) (span : Span) : Token :=
  ⟨kind, text, span, span⟩

/-- The form of the characters that comparisons of names use. -/
def key (t : Token) : Text :=
  t.text.lower

/-- The token is the given reserved word. -/
def isReserved (t : Token) (word : String) : Bool :=
  t.kind == .reserved && t.text.sameName (.ofString word)

/-- The token is the given operator. -/
def isOperator (t : Token) (op : String) : Bool :=
  t.kind == .operator && t.text == Text.ofString op

/-- An identifier or a reserved word: reserved words may still name keywords, fields and
methods. -/
def isWord (t : Token) : Bool :=
  t.kind == .identifier || t.kind == .reserved

/-- The token begins the definition of a routine. -/
def startsRoutine (t : Token) : Bool :=
  t.isReserved "pro" || t.isReserved "function"

/-- The cursor touches the token. -/
def contains (t : Token) (here : Cursor) : Bool :=
  if t.start.line == t.stop.line then t.start.touches here
  else
    (here.line == t.start.line && t.start.column ≤ here.character) ||
      (t.start.line < here.line && here.line < t.stop.line) ||
      (here.line == t.stop.line && here.character ≤ t.stop.endColumn)

end Token

end RoutineAtlas
