import RoutineAtlas.Text.Blank

/-!
# Punycode

Labels of domain names in ASCII. The ASCII characters of a label are written first, and then, for
each further character in the order of their numbers, how far to go to insert it: the places to pass
within the text, and the rounds through it while the number grows. A distance is a number with
digits of varying weight, the least first, whose last digit lies below a threshold. The thresholds
follow the distances so far.
-/

namespace RoutineAtlas.Punycode

/-! ## Digits -/

/-- The character of a digit below thirty-six. -/
def digitChar (n : Nat) : Char :=
  if n < 26 then Char.ofNat (0x61 + n) else Char.ofNat (0x16 + n)

/-- The digit that a character stands for. -/
def digitValue? (c : Char) : Option Nat :=
  if c.isLower then some (c.toNat - 0x61)
  else if c.isUpper then some (c.toNat - 0x41)
  else if c.isDigit then some (c.toNat - 0x16)
  else none

/-- The threshold of the digit with number `k` times thirty-six: digits below it are the last. -/
def threshold (bias k : Nat) : Nat :=
  if k ≤ bias then 1 else if bias + 26 ≤ k then 26 else k - bias

/-- Every digit may be the last one, if it is zero. -/
theorem threshold_pos (bias k : Nat) : 0 < threshold bias k := by
  unfold threshold
  split
  · omega
  · split <;> omega

/-- A distance made small, and the thresholds that it passes on the way. -/
def shrink (distance passed : Nat) : Nat × Nat :=
  if 455 < distance then shrink (distance / 35) (passed + 36) else (distance, passed)
termination_by distance
decreasing_by exact Nat.div_lt_self (by omega) (by omega)

/-- The bias of the thresholds after a distance, in a text of `count` characters. The first distance
counts for less. -/
def nextBias (distance count : Nat) (isFirst : Bool) : Nat :=
  let part := if isFirst then distance / 700 else distance / 2
  let (rest, passed) := shrink (part + part / count) 0
  passed + 36 * rest / (rest + 38)

/-! ## Writing -/

/-- The digits of a distance. -/
def distanceText (bias k distance : Nat) : Text :=
  let t := threshold bias k
  if distance < t then [digitChar distance]
  else digitChar (t + (distance - t) % (36 - t)) ::
    distanceText bias (k + 36) ((distance - t) / (36 - t))
termination_by distance
decreasing_by
  have := threshold_pos bias k
  calc (distance - threshold bias k) / (36 - threshold bias k)
      ≤ distance - threshold bias k := Nat.div_le_self _ _
    _ < distance := by omega

/-- How far the writing of a label is. -/
structure Writer where
  /-- The digits so far. -/
  written : Text
  /-- The distance since the last character. -/
  distance : Nat
  bias : Nat
  /-- The number of characters written. -/
  count : Nat

/-- Pass a character of the label while those with the number `n` are written. -/
def Writer.pass (basic n : Nat) (w : Writer) (c : Char) : Writer :=
  if c.toNat < n then { w with distance := w.distance + 1 }
  else if c.toNat == n then
    { written := w.written ++ distanceText w.bias 36 w.distance
      distance := 0
      bias := nextBias w.distance (w.count + 1) (w.count == basic)
      count := w.count + 1 }
  else w

/-- Write the characters with the numbers given. All with a number below `next` are written. -/
def Writer.write (label : Text) (basic next : Nat) (w : Writer) : List Nat → Writer
  | [] => w
  | n :: rest =>
    let w := { w with distance := w.distance + (n - next) * (w.count + 1) }
    let w := label.foldl (Writer.pass basic n) w
    Writer.write label basic (n + 1) { w with distance := w.distance + 1 } rest

/-- A label in ASCII. -/
def encode (label : Text) : Text :=
  let basic := label.filter fun c => c.toNat < 0x80
  let numbers := (label.filter fun c => 0x80 ≤ c.toNat).map Char.toNat
  let ordered := (numbers.mergeSort fun a b => a ≤ b).eraseDups
  let start : Writer := ⟨[], 0, 72, basic.length⟩
  let digits := (start.write label basic.length 0x80 ordered).written
  if basic.isEmpty then digits else basic ++ '-' :: digits

/-! ## Reading -/

/-- How far the reading of a label is. -/
structure Reader where
  /-- The characters read so far. -/
  label : Text
  /-- The number of the last character inserted. -/
  number : Nat
  /-- The place after the last character inserted. -/
  place : Nat
  bias : Nat
  /-- The distance that is being read, its next digit's threshold and the weight of that digit. -/
  distance : Nat
  k : Nat
  weight : Nat

/-- Distances have 32 bits. -/
def limit : Nat := 4294967296

/-- The character with a number, if there is one. -/
def char? (n : Nat) : Option Char :=
  if n < 0xD800 || (0xDFFF < n && n < 0x110000) then some (.ofNat n) else none

/-- Insert a character at the distance that has been read. -/
def Reader.insert? (r : Reader) (distance : Nat) : Option Reader := do
  let count := r.label.length + 1
  let number := r.number + (r.place + distance) / count
  let place := (r.place + distance) % count
  let c ← char? number
  return {
    label := r.label.take place ++ c :: r.label.drop place
    number := number
    place := place + 1
    bias := nextBias distance count (r.place == 0)
    distance := 0
    k := 36
    weight := 1 }

/-- Read a digit. -/
def Reader.read? (r : Reader) (digit : Nat) : Option Reader := do
  let distance := r.distance + digit * r.weight
  guard (r.place + distance < limit)
  let t := threshold r.bias r.k
  if digit < t then r.insert? distance
  else
    let weight := r.weight * (36 - t)
    guard (weight < limit)
    return { r with distance := distance, k := r.k + 36, weight := weight }

/-- Read the digits that follow; the last distance has to end with them. -/
def Reader.label? (r : Reader) : Text → Option Text
  | [] => if r.k == 36 then some r.label else none
  | c :: rest => do
    let next ← r.read? (← digitValue? c)
    next.label? rest

/-- The label that a text in ASCII writes. The ASCII characters end at the last hyphen. -/
def decode? (t : Text) : Option Text :=
  let digits := (t.reverse.takeWhile (· != '-')).reverse
  let basic := t.take (t.length - digits.length - 1)
  if basic.isEmpty && digits.length != t.length then none
  else
    let start : Reader := ⟨basic.map Char.toLower, 0x80, 0, 72, 0, 36, 1⟩
    start.label? digits

end RoutineAtlas.Punycode
