import RoutineAtlas.Toml

/-!
# Numbers, dates and words of TOML

A value that is neither quoted nor a container is a run of letters, digits and a few marks. This
module decides what such a run stands for.
-/

namespace RoutineAtlas.Toml

/-- The whole number that some digits write, underscores left out. -/
def digitsValue (base : Nat) (digits : Text) : Nat :=
  let value (c : Char) : Nat :=
    if c.isDigit then c.toNat - 0x30 else c.toLower.toNat - 0x57
  (digits.filter (· != '_')).foldl (fun n c => n * base + value c) 0

/-- Digits, with single underscores between them only. -/
def isDigits (isDigit : Char → Bool) (t : Text) : Bool :=
  (Text.piecesAt '_' t).all fun piece => !piece.isEmpty && piece.all isDigit

/-- Decimal digits of a whole number: a leading zero stands alone. -/
def isWhole (t : Text) : Bool :=
  isDigits Char.isDigit t && (t.head? != some '0' || t.length == 1)

/-- The sign of a number and what follows it. -/
def splitSign (t : Text) : Bool × Text :=
  match t with
  | '-' :: rest => (true, rest)
  | '+' :: rest => (false, rest)
  | rest => (false, rest)

/-- The number, if it fits into 64 bits. -/
def int64? (n : Int) : Option Toml :=
  if fitsInt64 n then some (.int n) else none

/-- A hexadecimal, octal or binary whole number. -/
def basedInteger? (t : Text) : Option Toml :=
  let number (base : Nat) (isDigit : Char → Bool) (digits : Text) : Option Toml :=
    if isDigits isDigit digits then int64? (digitsValue base digits) else none
  match t with
  | '0' :: 'x' :: digits =>
    number 16 (fun c => c.isDigit || ('a' ≤ c.toLower && c.toLower ≤ 'f')) digits
  | '0' :: 'o' :: digits => number 8 (fun c => '0' ≤ c && c ≤ '7') digits
  | '0' :: 'b' :: digits => number 2 (fun c => c == '0' || c == '1') digits
  | _ => none

/-- A decimal whole number. -/
def integer? (t : Text) : Option Toml :=
  let (negative, digits) := splitSign t
  if isWhole digits then
    let n : Int := digitsValue 10 digits
    int64? (if negative then -n else n)
  else none

/-- The exponent part of a number, after its mark. -/
def exponent? (t : Text) : Option Int :=
  let (negative, digits) := splitSign t
  if isDigits Char.isDigit digits then
    let n : Int := digitsValue 10 digits
    some (if negative then -n else n)
  else none

/-- A number with a fraction or an exponent. One too large to be kept is refused, unless it is
negative. -/
def float? (t : Text) : Option Toml := do
  let (negative, rest) := splitSign t
  if rest == "inf".toList then return .float (.infinite negative)
  if rest == "nan".toList then return .float .undefined
  let isMark (c : Char) : Bool := c == 'e' || c == 'E'
  let mantissa := rest.takeWhile fun c => !isMark c
  let whole := mantissa.takeWhile (· != '.')
  let fraction := mantissa.dropWhile (· != '.')
  let places := fraction.drop 1
  guard (isWhole whole && (fraction.isEmpty || isDigits Char.isDigit places))
  let exponent ←
    match rest.dropWhile fun c => !isMark c with
    | [] => if fraction.isEmpty then none else some 0
    | _ :: written => exponent? written
  let digits := digitsValue 10 (whole ++ places)
  let count := (places.filter (· != '_')).length
  match Binary64.ofDecimal negative digits (exponent - count) with
  | .infinite false => none
  | x => some (.float x)

/-! ## Dates and times -/

/-- The number that exactly `count` digits at the start of a text write, and what follows. -/
def fixedDigits? (count : Nat) (t : Text) : Option (Nat × Text) :=
  let digits := t.take count
  if digits.length == count && digits.all Char.isDigit then
    some (digitsValue 10 digits, t.drop count)
  else none

/-- What follows the character `c` at the start of a text. -/
def after? (c : Char) (t : Text) : Option Text :=
  match t with
  | d :: rest => if d == c then some rest else none
  | [] => none

/-- The number of days of a month. -/
def daysIn (year month : Nat) : Nat :=
  if month == 2 then
    if year % 4 == 0 && (year % 100 != 0 || year % 400 == 0) then 29 else 28
  else if [4, 6, 9, 11].contains month then 30
  else 31

/-- The date at the start of a text, as it is written, and what follows. -/
def date? (t : Text) : Option (Text × Text) := do
  let (year, rest) ← fixedDigits? 4 t
  let (month, rest) ← fixedDigits? 2 (← after? '-' rest)
  let (day, rest) ← fixedDigits? 2 (← after? '-' rest)
  guard (1 ≤ month && month ≤ 12 && 1 ≤ day && day ≤ daysIn year month)
  return (t.take 10, rest)

/-- The fraction of a second: nine places are kept, and zeros at the end are left out. -/
def secondFraction (digits : Text) : Text :=
  let kept := ((digits.take 9).reverse.dropWhile (· == '0')).reverse
  if kept.isEmpty then [] else '.' :: kept

/-- How far the numbers of a time may go. -/
structure ClockBounds where
  lastHour : Nat
  /-- The hours and minutes that may stand in an offset. -/
  allowsOffset : Nat → Nat → Bool

namespace ClockBounds

/-- The bounds of a time that is a value of a document. -/
def ofValue : ClockBounds :=
  ⟨23, fun hour minute => hour ≤ 23 && minute ≤ 59⟩

/-- The bounds of a time that is written in a text. -/
def ofText : ClockBounds :=
  ⟨24, fun hour minute => hour * 60 + minute ≤ 24 * 60⟩

end ClockBounds

/-- The time at the start of a text in its normal form, and what follows. -/
def time? (bounds : ClockBounds) (t : Text) : Option (Text × Text) := do
  let (hour, rest) ← fixedDigits? 2 t
  let (minute, rest) ← fixedDigits? 2 (← after? ':' rest)
  let (second, rest) ← fixedDigits? 2 (← after? ':' rest)
  guard (hour ≤ bounds.lastHour && minute ≤ 59 && second ≤ 60)
  match rest with
  | '.' :: more =>
    let digits := more.takeWhile Char.isDigit
    guard (!digits.isEmpty)
    return (t.take 8 ++ secondFraction digits, more.dropWhile Char.isDigit)
  | _ => return (t.take 8, rest)

/-- A number below a hundred in two digits. -/
def twoDigits (n : Nat) : Text :=
  [Char.ofNat (0x30 + n / 10), Char.ofNat (0x30 + n % 10)]

/-- The offset from universal time that a text is, in its normal form. -/
def offset? (bounds : ClockBounds) (t : Text) : Option Text :=
  match t with
  | [] => some []
  | ['z'] => some ['Z']
  | ['Z'] => some ['Z']
  | sign :: rest => do
    guard (sign == '+' || sign == '-')
    let (hour, more) ← fixedDigits? 2 rest
    let (minute, more) ← fixedDigits? 2 (← after? ':' more)
    guard (more.isEmpty && bounds.allowsOffset hour minute)
    let minutes := hour * 60 + minute
    let written := twoDigits (minutes / 60) ++ ':' :: twoDigits (minutes % 60)
    return (if minutes == 0 then '+' else sign) :: written

/-- A date, a time, or both, in the normal form. -/
def dateTime? (bounds : ClockBounds) (t : Text) : Option Text :=
  match date? t with
  | some (day, []) => some day
  | some (day, mark :: rest) => do
    guard (mark == 'T' || mark == 't' || mark == ' ')
    let (clock, rest) ← time? bounds rest
    return day ++ 'T' :: clock ++ (← offset? bounds rest)
  | none => do
    let (clock, rest) ← time? bounds t
    guard rest.isEmpty
    return clock

/-- A truth value. -/
def bool? (t : Text) : Option Toml :=
  if t == "true".toList then some (.bool true)
  else if t == "false".toList then some (.bool false)
  else none

/-- What a run of characters without quotes stands for. -/
def scalar? (t : Text) : Option Toml :=
  bool? t <|> (dateTime? .ofValue t).map .date <|> basedInteger? t <|> integer? t <|> float? t

end RoutineAtlas.Toml
