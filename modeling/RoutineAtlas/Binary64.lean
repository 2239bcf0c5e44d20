import RoutineAtlas.Text.Blank

/-!
# Binary numbers of 64 bits

Numbers with a fraction are kept to 53 binary digits. `Binary64.ofDecimal` rounds a decimal number
to the nearest such number, the even one if two are equally near, and `Binary64.text` writes a
number with the fewest digits that are rounded to it again. Both compute with whole numbers only.
-/

namespace RoutineAtlas

/-- A number of 64 bits: a mantissa below `2 ^ 53` times a power of two, or none of that kind. -/
inductive Binary64 where
  | finite (negative : Bool) (mantissa : Nat) (exponent : Int)
  | infinite (negative : Bool)
  | undefined
deriving DecidableEq, Repr

namespace Binary64

/-- The whole number nearest to a quotient, the even one if two are equally near. -/
def roundToEven (num den : Nat) : Nat :=
  let q := num / den
  let twice := 2 * (num % den)
  if twice < den then q
  else if den < twice then q + 1
  else if q % 2 == 0 then q else q + 1

/-- A fraction multiplied by a power of a base, as numerator and denominator. -/
def scale (base : Nat) (num den : Nat) (exponent : Int) : Nat × Nat :=
  match exponent with
  | .ofNat e => (num * base.pow e, den)
  | .negSucc e => (num, den * base.pow (e + 1))

/-- The largest power of two, by its exponent, that is not above a positive fraction. -/
def log2 (num den : Nat) : Int :=
  let guess : Int := (num.log2 : Int) - den.log2
  let (n, d) := scale 2 num den (-guess)
  if d ≤ n then guess else guess - 1

/-- The bound of all mantissas, `2 ^ 53`. -/
def mantissaBound : Nat := 9007199254740992

/-- The greatest natural number of 64 bits. -/
def greatestNat : Nat := 18446744073709551615

/-- The exponent of the last binary digit that the smallest numbers have. -/
def leastExponent : Int := -1074

/-- The exponent of the last binary digit that the largest numbers have. -/
def greatestExponent : Int := 971

/-- The number nearest to a positive fraction. -/
def ofFraction (negative : Bool) (num den : Nat) : Binary64 :=
  let exponent := max (log2 num den - 52) leastExponent
  let (n, d) := scale 2 num den (-exponent)
  let mantissa := roundToEven n d
  let (mantissa, exponent) :=
    if mantissa == mantissaBound then (mantissaBound / 2, exponent + 1) else (mantissa, exponent)
  if greatestExponent < exponent then infinite negative else finite negative mantissa exponent

/-- The number of decimal digits of a whole number. -/
def digitCount (n : Nat) : Nat :=
  (Nat.toDigits 10 n).length

/-- The number nearest to `mantissa` times ten to the power `exponent`. Numbers far outside the
range are told by their size alone. -/
def ofDecimal (negative : Bool) (mantissa : Nat) (exponent : Int) : Binary64 :=
  let size := exponent + digitCount mantissa
  if mantissa == 0 || size < -400 then finite negative 0 leastExponent
  else if 400 < size then infinite negative
  else
    let (num, den) := scale 10 mantissa 1 exponent
    ofFraction negative num den

/-- The number nearest to a whole number. -/
def ofNat (n : Nat) : Binary64 :=
  if n == 0 then finite false 0 leastExponent else ofFraction false n 1

/-- The number with the other sign. -/
def negate : Binary64 → Binary64
  | finite negative mantissa exponent => finite (!negative) mantissa exponent
  | infinite negative => infinite (!negative)
  | undefined => undefined

/-- The number is beyond all bounds. -/
def isInfinite : Binary64 → Bool
  | infinite _ => true
  | _ => false

/-- The number nearest to the product of two numbers, within bounds both. -/
def multiply (x y : Binary64) : Binary64 :=
  match x, y with
  | finite s m e, finite t n f =>
    let negative := s != t
    if m == 0 || n == 0 then finite negative 0 leastExponent
    else
      let (num, den) := scale 2 (m * n) 1 (e + f)
      ofFraction negative num den
  | _, _ => undefined

/-- The number nearest to the quotient of two numbers, within bounds both, the second of which is
not zero. -/
def divide (x y : Binary64) : Binary64 :=
  match x, y with
  | finite s m e, finite t n f =>
    let negative := s != t
    if n == 0 then undefined
    else if m == 0 then finite negative 0 leastExponent
    else
      let (num, den) := scale 2 m n (e - f)
      ofFraction negative num den
  | _, _ => undefined

/-- The number is zero, of either sign. -/
def isZero : Binary64 → Bool
  | finite _ mantissa _ => mantissa == 0
  | _ => false

/-- The nearest natural number, the larger one if two are equally near, within the bounds of 64
bits. Negative numbers have zero. -/
def roundToNat : Binary64 → Nat
  | finite true _ _ => 0
  | finite false mantissa exponent =>
    let (num, den) := scale 2 mantissa 1 exponent
    min ((2 * num + den) / (2 * den)) greatestNat
  | infinite negative => if negative then 0 else greatestNat
  | undefined => 0

/-- Whether `digits` times ten to the power `place` is rounded to the number. -/
def roundsFrom (mantissa : Nat) (exponent : Int) (digits : Nat) (place : Int) : Bool :=
  let (num, den) := scale 10 digits 1 place
  num != 0 && ofFraction false num den == finite false mantissa exponent

/-- Of the numbers below and above one in the middle, the lower is at least as near to it. -/
def isNearer (below middle above : Nat) : Bool :=
  2 * middle ≤ below + above

/-- The decimal number with its last digit at `place` that is rounded to the number, if there is
one; of two the nearer. -/
def decimalAt? (mantissa : Nat) (exponent : Int) (place : Int) : Option Nat :=
  let (num, den) := scale 2 mantissa 1 exponent
  let (num, den) := scale 10 num den (-place)
  let below := num / den
  let rounds (digits : Nat) : Bool := roundsFrom mantissa exponent digits place
  match rounds below, rounds (below + 1) with
  | true, true =>
    some (if isNearer (below * den) num ((below + 1) * den) then below else below + 1)
  | true, false => some below
  | false, true => some (below + 1)
  | false, false => none

/-- The decimal number with the fewest digits that is rounded to the number, its last digit at
`place` or at one of the `more` places after it. -/
def shortestFrom (mantissa : Nat) (exponent : Int) (place : Int) : Nat → Nat × Int
  | 0 => (0, 0)
  | more + 1 =>
    match decimalAt? mantissa exponent place with
    | some digits => (digits, place)
    | none => shortestFrom mantissa exponent (place - 1) more

/-- A decimal number without an exponent. -/
def positional (digits : Nat) (place : Int) : Text :=
  let written := Nat.toDigits 10 digits
  match place with
  | .ofNat zeros => written ++ List.replicate zeros '0'
  | .negSucc n =>
    let places := n + 1
    let padded := List.replicate (places + 1 - written.length) '0' ++ written
    let whole := padded.take (padded.length - places)
    whole ++ '.' :: padded.drop (padded.length - places)

/-- The place of the first digit that a positive number can have, or one before it. -/
def firstPlace (mantissa : Nat) (exponent : Int) : Int :=
  match exponent with
  | .ofNat e => digitCount (mantissa * Nat.pow 2 e)
  | .negSucc e => (digitCount mantissa : Int) - (digitCount (Nat.pow 2 (e + 1)) - 1)

/-- The decimal number with the fewest digits that is rounded to a positive number. -/
def shortest (mantissa : Nat) (exponent : Int) : Nat × Int :=
  shortestFrom mantissa exponent (firstPlace mantissa exponent) 20

/-- A number with the fewest digits that are rounded to it, and without an exponent. -/
def text : Binary64 → Text
  | finite negative mantissa exponent =>
    let sign := if negative then ['-'] else []
    if mantissa == 0 then sign ++ ['0']
    else
      let (digits, place) := shortest mantissa exponent
      sign ++ positional digits place
  | infinite negative => if negative then "-inf".toList else "inf".toList
  | undefined => "NaN".toList

/-- A number as in `text`, with a fraction even where it is zero. -/
def fractionText (x : Binary64) : Text :=
  match x with
  | finite _ _ _ => if x.text.contains '.' then x.text else x.text ++ ".0".toList
  | _ => x.text

/-- The power of ten that a number is written with, in at least two digits. -/
def exponentText (power : Int) : Text :=
  let digits := Nat.toDigits 10 power.natAbs
  let padded := if digits.length < 2 then '0' :: digits else digits
  'e' :: (if power < 0 then '-' else '+') :: padded

/-- A number as in `fractionText` from a hundred-thousandth up to ten to the sixteenth, and with an
exponent outside of that range. -/
def scientificText (x : Binary64) : Text :=
  match x with
  | finite negative mantissa exponent =>
    let (digits, place) := shortest mantissa exponent
    let power := place + digitCount digits - 1
    if mantissa == 0 || (-5 ≤ power && power ≤ 15) then x.fractionText
    else
      let sign := if negative then ['-'] else []
      let written := match Nat.toDigits 10 digits with
        | first :: second :: rest => first :: '.' :: second :: rest
        | single => single
      sign ++ written ++ exponentText power
  | _ => x.fractionText

end Binary64

end RoutineAtlas
