import RoutineAtlas.Problem.Code
import RoutineAtlas.Token

/-!
# Lexemes

What a line holds at a given character, seen from that character on: the kind of token that starts
there, how many characters it takes and what is wrong with it. Every function here measures: it
takes the characters that follow and answers with a length.
-/

namespace RoutineAtlas

/-- A token about to be cut: its kind, its length and its fault. -/
structure Lexeme where
  kind : TokenKind
  length : Nat
  fault : Option ProblemCode := none
deriving DecidableEq, Repr

namespace Lexeme

/-- The characters hold, at their front, one that satisfies `p`. -/
def next (p : Char → Bool) : Text → Bool
  | [] => false
  | c :: _ => p c

/-- The number of characters that satisfy `p` before the first that does not. -/
def run (p : Char → Bool) (cs : Text) : Nat :=
  (cs.takeWhile p).length

/-- An octal digit. -/
def isOctalDigit (c : Char) : Bool :=
  '0' ≤ c && c ≤ '7'

/-- A hexadecimal digit. -/
def isHexDigit (c : Char) : Bool :=
  c.isDigit || ('a' ≤ c.toLower && c.toLower ≤ 'f')

/-- The length of the rest of a name. A dollar sign belongs to the name if a name character
follows it. -/
def nameTail : Text → Nat
  | [] => 0
  | c :: cs => if isNameChar c || (c == '$' && next isNameChar cs) then nameTail cs + 1 else 0

/-- The type suffixes of numbers; the first that fits is taken. -/
def typeSuffixes : List Text :=
  ["ull", "ul", "ll", "us", "u", "l", "s", "b", "d", "i", "j"].map Text.ofString

/-- The length of the type suffix of a number, zero if it has none. A suffix is not followed by a
character that would extend a word. -/
def typeSuffix (cs : Text) : Nat :=
  let fits (suffix : Text) : Bool :=
    suffix.isPrefixOf cs.lower && !next extendsWord (cs.drop suffix.length)
  match typeSuffixes.find? fits with
  | some suffix => suffix.length
  | none => 0

/-- The length of a number's digits and of its type suffix, given the length of the digits. -/
def withSuffix (cs : Text) (digits : Nat) : Nat :=
  digits + typeSuffix (cs.drop digits)

/-- The characters start with a base marker, such as `0x`, and a digit after it. -/
def hasBaseMarker (cs : Text) : Bool :=
  match cs with
  | '0' :: marker :: digit :: _ => "xbo".toList.contains marker.toLower && isHexDigit digit
  | _ => false

/-- The length of the fraction of a number: a point and the digits after it. A point before a
letter that is no exponent marker ends the number instead. -/
def fraction (cs : Text) : Nat :=
  match cs with
  | '.' :: rest =>
    if next (fun c => c.isAlpha && !"ed".toList.contains c.toLower) rest then 0
    else run Char.isDigit rest + 1
  | _ => 0

/-- The length of the exponent of a number. A marker without digits counts when nothing extends
it. -/
def exponent (cs : Text) : Nat :=
  match cs with
  | [] => 0
  | marker :: rest =>
    if "ed".toList.contains marker.toLower then
      let sign := if next (fun c => c == '+' || c == '-') rest then 1 else 0
      let digits := run Char.isDigit (rest.drop sign)
      if digits ≠ 0 then 1 + sign + digits
      else if next extendsWord rest then 0
      else 1
    else 0

/-- The length of the number at the front of the characters. -/
def number (cs : Text) : Nat :=
  if hasBaseMarker cs then withSuffix cs (2 + run isHexDigit (cs.drop 2))
  else
    let whole := run Char.isDigit cs
    let decimal := whole + fraction (cs.drop whole)
    withSuffix cs (decimal + exponent (cs.drop decimal))

/-- The length of a string literal after its opening quote, its closing quote included; nothing if
the line ends first. A doubled quote stands for one quote and does not close the literal. -/
def quotedTail (quote : Char) : Text → Option Nat
  | [] => none
  | c :: cs =>
    if c == quote then
      match cs with
      | [] => some 1
      | d :: ds => if d == quote then (quotedTail quote ds).map (· + 2) else some 1
    else (quotedTail quote cs).map (· + 1)

/-- The string literal that opens with `quote` before the characters. A literal with a base marker
right after it, such as `'FF'x`, is a number. -/
def quoted (quote : Char) (cs : Text) : Lexeme :=
  match quotedTail quote cs with
  | none => ⟨.string, cs.length + 1, some .unterminatedString⟩
  | some tail =>
    match cs.drop tail with
    | [] => ⟨.string, tail + 1, none⟩
    | marker :: rest =>
      if "xob".toList.contains marker.toLower && !next extendsWord rest then
        ⟨.number, tail + 2 + typeSuffix rest, none⟩
      else ⟨.string, tail + 1, none⟩

/-- The operators of two characters, read before those of one. -/
def pairOperators : List (Char × Char) :=
  [('+', '+'), ('-', '-'), ('+', '='), ('-', '='), ('*', '='), ('/', '='), ('^', '='), ('#', '='),
    ('#', '#'), ('<', '='), ('>', '='), ('&', '&'), ('|', '|')]

/-- The operators of one character. -/
def singleOperators : List Char :=
  ['=', '+', '-', '*', '/', '^', '<', '>', '#', '?', '~', '.', '@']

/-- The kind of token that two characters make together. -/
def pairKind (c d : Char) : Option TokenKind :=
  if c == '-' && d == '>' then some .arrow
  else if c == ':' && d == ':' then some .doubleColon
  else if pairOperators.contains (c, d) then some .operator
  else none

/-- The kind of token that a mark makes alone. -/
def singleKind (c : Char) : TokenKind :=
  match c with
  | ',' => .comma
  | ':' => .colon
  | '(' => .leftParen
  | ')' => .rightParen
  | '[' => .leftBracket
  | ']' => .rightBracket
  | '\x7b' => .leftBrace
  | '\x7d' => .rightBrace
  | '&' => .ampersand
  | _ => if singleOperators.contains c then .operator else .unknown

/-- The mark `c` alone. A character that starts no token is a token of its own, and a fault. -/
def lone (c : Char) : Lexeme :=
  let kind := singleKind c
  ⟨kind, 1, if kind == .unknown then some .unknownToken else none⟩

/-- The punctuation or operator that starts with `c`. -/
def mark (c : Char) (cs : Text) : Lexeme :=
  match cs with
  | [] => lone c
  | d :: _ =>
    match pairKind c d with
    | some kind => ⟨kind, 2, none⟩
    | none => lone c

/-- The comment that starts with `;`, to the end of the line. Only the first token of a line can
delimit a documentation block. -/
def comment (leading : Bool) (cs : Text) : Lexeme :=
  let kind : TokenKind :=
    if leading && next (· == '+') cs then .docOpen
    else if leading && next (· == '-') cs then .docClose
    else .comment
  ⟨kind, cs.length + 1, none⟩

/-- The line continuation `$`. It is a fault if anything but a comment follows it. -/
def lineContinuation (cs : Text) : Lexeme :=
  let faulty := next (· != ';') cs.trimStart
  ⟨.continuation, 1, if faulty then some .invalidContinuation else none⟩

/-- The name or reserved word that starts with `c`. -/
def word (c : Char) (cs : Text) : Lexeme :=
  let tail := nameTail cs
  ⟨if isReservedWord (c :: cs.take tail) then .reserved else .identifier, tail + 1, none⟩

/-- The lexeme that starts with the character `c`, which is no blank, and goes on in `cs`.
`leading` says that only blanks stand before it on its line. -/
def read (leading : Bool) (c : Char) (cs : Text) : Lexeme :=
  if c == ';' then comment leading cs
  else if c == '$' then lineContinuation cs
  else if c == '"' && next isOctalDigit cs then
    ⟨.number, withSuffix (c :: cs) (run isOctalDigit cs + 1), none⟩
  else if c == '\'' || c == '"' then quoted c cs
  else if c == '!' && next isNameStart cs then ⟨.systemVariable, nameTail cs + 1, none⟩
  else if c.isDigit || (c == '.' && next Char.isDigit cs) then ⟨.number, number (c :: cs), none⟩
  else if isNameStart c then word c cs
  else mark c cs

end Lexeme

end RoutineAtlas
