import RoutineAtlas.Text.Digits

/-!
# Addresses

Addresses of hosts, of 32 bits in four parts and of 128 bits in eight groups.
-/

namespace RoutineAtlas

/-! ## Addresses in four parts -/

/-- An address of 32 bits. -/
structure Ipv4 where
  value : Nat
deriving DecidableEq, Repr

namespace Ipv4

/-- The number that a part writes: in hexadecimal after `0x`, in octal after `0`, and else in
decimal. Nothing after `0x` is zero. -/
def part? (t : Text) : Option Nat :=
  let number? (base : Nat) (digits : Text) : Option Nat :=
    if digits.all fun c => (Text.hexDigitValue? c).any (· < base) then
      some (Text.digitsValue base digits)
    else none
  match t with
  | [] => none
  | ['0'] => some 0
  | '0' :: 'x' :: digits => number? 16 digits
  | '0' :: 'X' :: digits => number? 16 digits
  | '0' :: digits => number? 8 digits
  | digits => number? 10 digits

/-- The parts between the dots of a text, without an empty one at its end. -/
def parts (t : Text) : List Text :=
  let pieces := Text.piecesAt '.' t
  if pieces.getLast? == some [] then pieces.dropLast else pieces

/-- The text can only be an address, since its last part is a number. -/
def isMeant (t : Text) : Bool :=
  match (parts t).getLast? with
  | none => false
  | some last => (!last.isEmpty && last.all Char.isDigit) || (part? last).isSome

/-- The address of its parts. Each is a byte, but for the last, which takes all that are left. -/
def ofParts? (parts : List Nat) : Option Ipv4 :=
  match parts.reverse with
  | [] => none
  | last :: before =>
    let room := [4294967296, 16777216, 65536, 256].getD before.length 0
    if last < room && before.all (· < 256) then
      some ⟨last + before.reverse.foldl (fun n part => n * 256 + part) 0 * room⟩
    else none

/-- The address that a text writes. -/
def ofText? (t : Text) : Option Ipv4 := do
  ofParts? (← (parts t).mapM part?)

/-- The text of an address. -/
def toText (a : Ipv4) : Text :=
  let byte (weight : Nat) : Text := Nat.toDigits 10 (a.value / weight % 256)
  List.intercalate ['.'] ([16777216, 65536, 256, 1].map byte)

end Ipv4

/-! ## Addresses in eight groups -/

/-- An address of 128 bits, by its groups of 16 bits. -/
structure Ipv6 where
  groups : List Nat
deriving DecidableEq, Repr

namespace Ipv6

/-- The group that up to four hexadecimal digits write. -/
def group? (t : Text) : Option Nat :=
  if !t.isEmpty && t.length ≤ 4 && t.all (fun c => (Text.hexDigitValue? c).isSome) then
    some (Text.hexValue t)
  else none

/-- The byte that decimal digits write, without leading zeros. -/
def byte? (t : Text) : Option Nat :=
  if !t.isEmpty && t.all Char.isDigit && (t.head? != some '0' || t.length == 1) &&
      Text.decimalValue t < 256 then
    some (Text.decimalValue t)
  else none

/-- The two groups that four bytes write. -/
def fourBytes? (t : Text) : Option (List Nat) := do
  match ← (Text.piecesAt '.' t).mapM byte? with
  | [a, b, c, d] => some [a * 256 + b, c * 256 + d]
  | _ => none

/-- The groups that a text writes with colons between them. The last two may be written as four
bytes if that `isLast`. -/
def groups? (isLast : Bool) (t : Text) : Option (List Nat) :=
  if t.isEmpty then some []
  else
    let pieces := Text.piecesAt ':' t
    match pieces.getLast? with
    | none => some []
    | some last => do
      let before ← pieces.dropLast.mapM group?
      let rest ← if isLast && last.contains '.' then fourBytes? last else (group? last).map ([·])
      return before ++ rest

/-- The text before the first `::` and the text after it. -/
def splitGap : Text → Text × Option Text
  | ':' :: ':' :: rest => ([], some rest)
  | [] => ([], none)
  | c :: rest =>
    let (before, after) := splitGap rest
    (c :: before, after)

/-- The address that a text writes. In place of `::` stand as many groups of zeros as are missing,
one at least. -/
def ofText? (t : Text) : Option Ipv6 :=
  match splitGap t with
  | (before, some after) => do
    let before ← groups? false before
    let after ← groups? true after
    let count := before.length + after.length
    if count < 8 then some ⟨before ++ List.replicate (8 - count) 0 ++ after⟩ else none
  | (all, none) => do
    let groups ← groups? true all
    if groups.length == 8 then some ⟨groups⟩ else none

/-- The places of the longest run of zeros from the place `index` on, as its start and its length;
the first of several. -/
def zeros (index : Nat) : List Nat → Nat × Nat
  | [] => (index, 0)
  | group :: rest =>
    let here := ((group :: rest).takeWhile (· == 0)).length
    let later := zeros (index + 1) rest
    if later.2 ≤ here then (index, here) else later

/-- The text of some groups. -/
def groupsText (groups : List Nat) : Text :=
  List.intercalate [':'] (groups.map Text.hexDigits)

/-- The text of an address. The longest run of two or more zeros is left out. -/
def toText (a : Ipv6) : Text :=
  let (start, count) := zeros 0 a.groups
  if 2 ≤ count then
    groupsText (a.groups.take start) ++ ':' :: ':' :: groupsText (a.groups.drop (start + count))
  else groupsText a.groups

end Ipv6

end RoutineAtlas
