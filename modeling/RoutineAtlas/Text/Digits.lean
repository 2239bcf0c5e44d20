import RoutineAtlas.Text.Blank

/-!
# Digits

Numbers as they are written to the bases ten and sixteen. Letters for digits are read in either
case.
-/

namespace RoutineAtlas.Text

/-- The hexadecimal digit of a number below sixteen, as a capital. -/
def upperHexDigit (n : Nat) : Char :=
  if n < 10 then Char.ofNat (0x30 + n) else Char.ofNat (0x37 + n)

/-- The hexadecimal digits of a number, small and without leading zeros. -/
def hexDigits (n : Nat) : Text :=
  Nat.toDigits 16 n

/-- The number that a hexadecimal digit stands for. -/
def hexDigitValue? (c : Char) : Option Nat :=
  if c.isDigit then some (c.toNat - 0x30)
  else if 'a' ≤ c && c ≤ 'f' then some (c.toNat - 0x57)
  else if 'A' ≤ c && c ≤ 'F' then some (c.toNat - 0x37)
  else none

/-- The number that some digits write to a base; any other character counts as zero. -/
def digitsValue (base : Nat) (t : Text) : Nat :=
  t.foldl (fun n c => n * base + (hexDigitValue? c).getD 0) 0

/-- The number that some hexadecimal digits write. -/
def hexValue (t : Text) : Nat :=
  digitsValue 16 t

/-- The number that some decimal digits write. -/
def decimalValue (t : Text) : Nat :=
  digitsValue 10 t

end RoutineAtlas.Text
