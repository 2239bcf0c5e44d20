import RoutineAtlas.Text.Blank

/-!
# UTF-8

Bytes as text. Each longest start of a character that is not continued as it has to be, and each
byte that starts none, is one malformed place; a lenient reading puts a replacement character there.
-/

namespace RoutineAtlas

/-- Where the reading of a byte sequence stands. -/
inductive Utf8State where
  | between
  /-- In a character: the number of bytes still missing, the range of the next one, and the bits
  so far. -/
  | inside (missing low high bits : Nat)
deriving DecidableEq, Repr

namespace Utf8State

/-- The state after a byte that starts a longer character. The ranges leave out characters written
with too many bytes, surrogates and numbers above the last character. -/
def ofLead? (b : Nat) : Option Utf8State :=
  if 0xC2 ≤ b && b ≤ 0xDF then some (.inside 1 0x80 0xBF (b - 0xC0))
  else if b == 0xE0 then some (.inside 2 0xA0 0xBF 0)
  else if b == 0xED then some (.inside 2 0x80 0x9F 0xD)
  else if 0xE1 ≤ b && b ≤ 0xEF then some (.inside 2 0x80 0xBF (b - 0xE0))
  else if b == 0xF0 then some (.inside 3 0x90 0xBF 0)
  else if 0xF1 ≤ b && b ≤ 0xF3 then some (.inside 3 0x80 0xBF (b - 0xF0))
  else if b == 0xF4 then some (.inside 3 0x80 0x8F 4)
  else none

/-- Read a byte between two characters. A malformed place is written as nothing. -/
def start (b : Nat) : Utf8State × List (Option Char) :=
  if b < 0x80 then (between, [some (Char.ofNat b)])
  else
    match ofLead? b with
    | some state => (state, [])
    | none => (between, [none])

/-- Read a byte. -/
def step (s : Utf8State) (b : Nat) : Utf8State × List (Option Char) :=
  match s with
  | between => start b
  | inside missing low high bits =>
    if low ≤ b && b ≤ high then
      let bits := bits * 64 + (b - 0x80)
      if missing ≤ 1 then (between, [some (Char.ofNat bits)])
      else (inside (missing - 1) 0x80 0xBF bits, [])
    else
      let (next, read) := start b
      (next, none :: read)

/-- Read the bytes that follow. -/
def read (s : Utf8State) : List UInt8 → List (Option Char)
  | [] => if s == between then [] else [none]
  | b :: rest =>
    let (next, found) := s.step b.toNat
    found ++ next.read rest

end Utf8State

namespace Text

/-- The text that some bytes encode; nothing if they are malformed anywhere. -/
def ofUtf8? (bytes : List UInt8) : Option Text :=
  (Utf8State.between.read bytes).mapM id

/-- The text that some bytes encode, with a replacement character at each malformed place. -/
def ofUtf8Lossy (bytes : List UInt8) : Text :=
  (Utf8State.between.read bytes).map fun c => c.getD '�'

end Text

end RoutineAtlas
