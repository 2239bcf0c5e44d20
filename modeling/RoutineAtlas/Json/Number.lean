import RoutineAtlas.Json

/-!
# Numbers of JSON

A whole number of 64 bits is kept as it is. Any other number is computed in steps, each of them
rounded: as many digits as fit into 64 bits are read as a whole number, which is then multiplied or
divided by a power of ten.
-/

namespace RoutineAtlas.Json

/-- What has been read of the digits of a number: a whole number and the power of ten that belongs
to it. -/
structure Scaled where
  significand : Nat
  power : Int
  /-- The last digit did not fit, and no further one is looked at. -/
  isFull : Bool
deriving DecidableEq, Repr

namespace Scaled

/-- The whole number with a digit at its end, if it still fits into 64 bits. -/
def extended? (s : Scaled) (digit : Char) : Option Nat :=
  let n := s.significand * 10 + (digit.toNat - 0x30)
  if s.isFull || Binary64.greatestNat < n then none else some n

/-- Read a digit before the point. One that does not fit raises the power. -/
def addWhole (s : Scaled) (digit : Char) : Scaled :=
  match s.extended? digit with
  | some n => { s with significand := n }
  | none => { s with power := s.power + 1, isFull := true }

/-- Read a digit after the point. One that does not fit is left out. -/
def addPlace (s : Scaled) (digit : Char) : Scaled :=
  match s.extended? digit with
  | some n => { s with significand := n, power := s.power - 1 }
  | none => { s with isFull := true }

/-- Read the digits before and after the point. -/
def ofDigits (whole places : List Char) : Scaled :=
  let s := whole.foldl addWhole ⟨0, 0, false⟩
  places.foldl addPlace { s with isFull := false }

end Scaled

/-- The largest power of ten that numbers are multiplied or divided by at once. -/
def greatestPower : Nat := 308

/-- Ten to the power `n`, rounded. -/
def tenTo (n : Nat) : Binary64 :=
  Binary64.ofDecimal false 1 n

/-- A number divided by ten to the power `n`, in at most `steps` further steps before the last. -/
def shrink (x : Binary64) (n : Nat) : (steps : Nat) → Binary64
  | 0 => x.divide (tenTo n)
  | steps + 1 =>
    if n ≤ greatestPower || x.isZero then x.divide (tenTo n)
    else shrink (x.divide (tenTo greatestPower)) (n - greatestPower) steps

/-- A whole number multiplied by a power of ten; nothing if the product is beyond all bounds. -/
def scaled? (significand : Nat) (power : Int) : Option Binary64 :=
  let x := Binary64.ofNat significand
  match power with
  | .ofNat n =>
    if x.isZero then some x
    else if greatestPower < n then none
    else
      let y := x.multiply (tenTo n)
      if y.isInfinite then none else some y
  | .negSucc n => some (shrink x (n + 1) 3)

/-- The greatest exponent that is looked at. -/
def greatestExponent : Nat := 2147483647

/-- The number with some digits and an exponent; nothing if it is beyond all bounds. -/
def number? (s : Scaled) (isSmall : Bool) (exponent : Nat) : Option Binary64 :=
  if greatestExponent < exponent then
    if s.significand == 0 || isSmall then some (.ofNat 0) else none
  else scaled? s.significand (s.power + if isSmall then -(exponent : Int) else exponent)

/-- The number with a sign. -/
def signed (negative : Bool) (x : Binary64) : Json :=
  .float (if negative then x.negate else x)

/-- The whole number with some digits. -/
def whole? (negative : Bool) (digits : List Char) : Option Json :=
  let s := Scaled.ofDigits digits []
  if 0 < s.power then (scaled? s.significand s.power).map (signed negative)
  else if !negative then some (.int s.significand)
  else if s.significand == 0 || 9223372036854775808 < s.significand then
    some (signed true (.ofNat s.significand))
  else some (.int (-(s.significand : Int)))

end RoutineAtlas.Json
