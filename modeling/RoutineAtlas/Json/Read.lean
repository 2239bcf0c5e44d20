import RoutineAtlas.Json.Number
import RoutineAtlas.Text.Digits

/-!
# Reading JSON

A text is read in two passes, each a step function folded over its input: characters to lexical
pieces, then pieces to a value with a stack of the containers that are still open. Containers may be
nested less than 128 deep. The members of an object are kept in the order of their names, and of
several with one name the last.
-/

namespace RoutineAtlas.Json

/-- The lexical pieces of JSON. -/
inductive Piece where
  | openArray
  | closeArray
  | openObject
  | closeObject
  | colon
  | comma
  | text (value : String)
  /-- A number or one of the words `true`, `false` and `null`. -/
  | word (chars : List Char)
deriving Repr

/-- Where the first pass stands: between pieces, in a word, or in a string. The characters of a
word or string are kept last first. -/
inductive LexState where
  | between
  | inWord (chars : List Char)
  | inString (chars : List Char)
  | escaped (chars : List Char)
  /-- Within a `\u` escape: digits still missing, the number so far, and the first half of a
  surrogate pair if there is one. -/
  | inUnicode (chars : List Char) (missing value : Nat) (high : Option Nat)
  /-- After the first half of a surrogate pair: a backslash has to follow. -/
  | afterHigh (chars : List Char) (high : Nat)
  /-- After that backslash: a `u` has to follow. -/
  | afterHighEscape (chars : List Char) (high : Nat)
deriving Repr

/-- The first pass: the pieces found so far, last first, and the state. -/
structure Lexing where
  pieces : List Piece
  state : LexState
deriving Repr

/-- The piece that a punctuation mark makes. -/
def mark? (c : Char) : Option Piece :=
  if c == '[' then some .openArray
  else if c == ']' then some .closeArray
  else if c == '\x7b' then some .openObject
  else if c == '\x7d' then some .closeObject
  else if c == ':' then some .colon
  else if c == ',' then some .comma
  else none

/-- The blanks that may stand between pieces. -/
def isGap (c : Char) : Bool :=
  c == ' ' || c == '\n' || c == '\r' || c == '\t'

/-- Start a piece at the character `c`, after the pieces found so far. -/
def startPiece (pieces : List Piece) (c : Char) : Option Lexing :=
  if isGap c then some ⟨pieces, .between⟩
  else
    match mark? c with
    | some piece => some ⟨piece :: pieces, .between⟩
    | none =>
      if c == '"' then some ⟨pieces, .inString []⟩
      else if c.isAlphanum || c == '-' then some ⟨pieces, .inWord [c]⟩
      else none

/-- The character that an escape of one letter stands for. -/
def simpleEscape? (c : Char) : Option Char :=
  match c with
  | '"' => some '"'
  | '\\' => some '\\'
  | '/' => some '/'
  | 'b' => some '\x08'
  | 'f' => some '\x0c'
  | 'n' => some '\n'
  | 'r' => some '\r'
  | 't' => some '\t'
  | _ => none

/-- The state after the last digit of a `\u` escape. -/
def finishUnicode (chars : List Char) (value : Nat) (high : Option Nat) : Option LexState :=
  match high with
  | some h =>
    if 0xDC00 ≤ value && value ≤ 0xDFFF then
      some (.inString (Char.ofNat (0x10000 + (h - 0xD800) * 0x400 + (value - 0xDC00)) :: chars))
    else none
  | none =>
    if 0xD800 ≤ value && value ≤ 0xDBFF then some (.afterHigh chars value)
    else if 0xDC00 ≤ value && value ≤ 0xDFFF then none
    else some (.inString (Char.ofNat value :: chars))

/-- One character of the first pass. -/
def lexStep (s : Lexing) (c : Char) : Option Lexing :=
  match s.state with
  | .between => startPiece s.pieces c
  | .inWord chars =>
    if c.isAlphanum || c == '-' || c == '+' || c == '.' then some ⟨s.pieces, .inWord (c :: chars)⟩
    else startPiece (.word chars.reverse :: s.pieces) c
  | .inString chars =>
    if c == '"' then some ⟨.text (String.ofList chars.reverse) :: s.pieces, .between⟩
    else if c == '\\' then some ⟨s.pieces, .escaped chars⟩
    else if c.toNat < 0x20 then none
    else some ⟨s.pieces, .inString (c :: chars)⟩
  | .escaped chars =>
    if c == 'u' then some ⟨s.pieces, .inUnicode chars 4 0 none⟩
    else (simpleEscape? c).map fun e => ⟨s.pieces, .inString (e :: chars)⟩
  | .inUnicode chars missing value high => do
    let digit ← Text.hexDigitValue? c
    let value := value * 16 + digit
    let state ← if missing ≤ 1 then finishUnicode chars value high
      else some (.inUnicode chars (missing - 1) value high)
    return ⟨s.pieces, state⟩
  | .afterHigh chars high =>
    if c == '\\' then some ⟨s.pieces, .afterHighEscape chars high⟩ else none
  | .afterHighEscape chars high =>
    if c == 'u' then some ⟨s.pieces, .inUnicode chars 4 0 (some high)⟩ else none

/-- The lexical pieces of a text; nothing if it has a malformed one. -/
def pieces? (cs : List Char) : Option (List Piece) := do
  let s ← cs.foldlM lexStep ⟨[], .between⟩
  match s.state with
  | .between => some s.pieces.reverse
  | .inWord chars => some (.word chars.reverse :: s.pieces).reverse
  | _ => none

/-- The exponent part of a number: whether it is negative, and its digits as a number. -/
def exponent? (cs : List Char) : Option (Bool × Nat) :=
  match cs with
  | [] => some (false, 0)
  | marker :: rest =>
    if marker == 'e' || marker == 'E' then
      let (negative, digits) : Bool × List Char :=
        match rest with
        | '-' :: ds => (true, ds)
        | '+' :: ds => (false, ds)
        | ds => (false, ds)
      if digits.isEmpty || !digits.all Char.isDigit then none
      else some (negative, Text.decimalValue digits)
    else none

/-- The number that some characters write after its sign. A leading zero stands alone. -/
def unsignedNumber? (negative : Bool) (cs : List Char) : Option Json :=
  let whole := cs.takeWhile Char.isDigit
  if whole.isEmpty || (whole.head? == some '0' && whole.length > 1) then none
  else
    match cs.dropWhile Char.isDigit with
    | [] => whole? negative whole
    | '.' :: rest =>
      let places := rest.takeWhile Char.isDigit
      if places.isEmpty then none
      else do
        let (isSmall, e) ← exponent? (rest.dropWhile Char.isDigit)
        (number? (.ofDigits whole places) isSmall e).map (signed negative)
    | rest => do
      let (isSmall, e) ← exponent? rest
      (number? (.ofDigits whole []) isSmall e).map (signed negative)

/-- The number that some characters write. -/
def writtenNumber? (cs : List Char) : Option Json :=
  match cs with
  | '-' :: rest => unsignedNumber? true rest
  | rest => unsignedNumber? false rest

/-- The value of a word. -/
def wordValue? (cs : List Char) : Option Json :=
  if cs == "true".toList then some (.bool true)
  else if cs == "false".toList then some (.bool false)
  else if cs == "null".toList then some .null
  else writtenNumber? cs

/-- A container that is still open, with what it holds so far, last first. -/
inductive Frame where
  | items (done : List Json)
  | fields (done : List (String × Json))
  /-- An object that waits for the value of a member. -/
  | member (done : List (String × Json)) (name : String)

/-- What the second pass expects next. -/
inductive Expect where
  | value
  | firstItem
  | firstName
  | name
  | colon
  /-- A comma or the end of the innermost open container; the end of the text if none is open. -/
  | more
deriving DecidableEq

/-- The second pass: the open containers, innermost first, the finished outermost value and what
has to follow. -/
structure Building where
  stack : List Frame
  result : Option Json
  expect : Expect

/-- The nesting depth that is refused. -/
def depthLimit : Nat := 128

/-- Put a finished value into the innermost open container. -/
def place (stack : List Frame) (v : Json) : Option Building :=
  match stack with
  | [] => some ⟨[], some v, .more⟩
  | .items done :: rest => some ⟨.items (v :: done) :: rest, none, .more⟩
  | .member done name :: rest => some ⟨.fields ((name, v) :: done) :: rest, none, .more⟩
  | .fields _ :: _ => none

/-- Open a container. -/
def openFrame (stack : List Frame) (frame : Frame) (expect : Expect) : Option Building :=
  if stack.length + 1 < depthLimit then some ⟨frame :: stack, none, expect⟩ else none

/-- A member put among members that are sorted by their names; it gives way to one with its
name. -/
def insertMember (member : String × Json) : List (String × Json) → List (String × Json)
  | [] => [member]
  | other :: rest =>
    if member.1 == other.1 then other :: rest
    else if member.1 < other.1 then member :: other :: rest
    else other :: insertMember member rest

/-- The members of an object, given last first. -/
def sortedMembers (done : List (String × Json)) : List (String × Json) :=
  done.foldl (fun members member => insertMember member members) []

/-- Close the innermost container with the piece that has to match it. -/
def closeFrame (stack : List Frame) (piece : Piece) : Option Building :=
  match stack, piece with
  | .items done :: rest, .closeArray => place rest (.array done.reverse)
  | .fields done :: rest, .closeObject => place rest (.object (sortedMembers done))
  | _, _ => none

/-- Read a piece where a value has to stand. -/
def startValue (stack : List Frame) (piece : Piece) : Option Building :=
  match piece with
  | .openArray => openFrame stack (.items []) .firstItem
  | .openObject => openFrame stack (.fields []) .firstName
  | .text s => place stack (.string s)
  | .word cs => do place stack (← wordValue? cs)
  | _ => none

/-- Read a piece where the name of a member has to stand. -/
def startMember (stack : List Frame) (piece : Piece) : Option Building :=
  match stack, piece with
  | .fields done :: rest, .text s => some ⟨.member done s :: rest, none, .colon⟩
  | _, _ => none

/-- One piece of the second pass. -/
def buildStep (b : Building) (piece : Piece) : Option Building :=
  match b.expect with
  | .value => startValue b.stack piece
  | .firstItem =>
    match piece with
    | .closeArray => closeFrame b.stack piece
    | _ => startValue b.stack piece
  | .firstName =>
    match piece with
    | .closeObject => closeFrame b.stack piece
    | _ => startMember b.stack piece
  | .name => startMember b.stack piece
  | .colon =>
    match piece with
    | .colon => some ⟨b.stack, none, .value⟩
    | _ => none
  | .more =>
    match b.stack, piece with
    | .items _ :: _, .comma => some ⟨b.stack, none, .value⟩
    | .fields _ :: _, .comma => some ⟨b.stack, none, .name⟩
    | _ :: _, _ => closeFrame b.stack piece
    | [], _ => none

/-- The value that a text writes; nothing if the text is no JSON. -/
def read? (text : String) : Option Json := do
  let pieces ← pieces? text.toList
  let b ← pieces.foldlM buildStep ⟨[], none, .value⟩
  b.result

end RoutineAtlas.Json
