import RoutineAtlas.Text.Composed
import RoutineAtlas.Url.Direction
import RoutineAtlas.Url.DomainTable
import RoutineAtlas.Url.Joiner
import RoutineAtlas.Url.Punycode

/-!
# Domain names

A domain name is a row of labels with dots between them. It may be written in any script, in capital
or small letters; its normal form is in ASCII, where a label with other characters is written in
Punycode after `xn--`.
-/

namespace RoutineAtlas.Domain

/-- What a label in Punycode starts with. -/
def mark : Text :=
  "xn--".toList

/-- The number of characters that a label outside ASCII may have at most. -/
def longestLabel : Nat := 1000

/-- The number of characters that a label in Punycode may have at most after `xn--`. -/
def longestEncodedLabel : Nat := 2000

/-- An ASCII character that no domain name may hold. -/
def isRefused (c : Char) : Bool :=
  c.toNat ≤ 0x20 || c.toNat == 0x7F || "%#/:<>?@[\\]^|".toList.contains c

/-- All characters are ASCII. -/
def isAscii (t : Text) : Bool :=
  t.all fun c => c.toNat < 0x80

/-- A domain name with small letters only, in which every character stands for itself. -/
def mapped? (t : Text) : Option Text := do
  let t := Text.composed (← t.mapM domainChar?).flatten
  if t.any isRefused then none else some t

/-- A label outside ASCII may stand in a domain name. -/
def isLabel (label : Text) : Bool :=
  !label.head?.any markChars.contains && joinersMatter [] label && label.length ≤ longestLabel

/-- The label that a label of a domain name writes, in Punycode or as it is. -/
def label? (written : Text) : Option Text :=
  if mark.isPrefixOf written then do
    let code := written.drop mark.length
    guard (isAscii code && code.length ≤ longestEncodedLabel && code.getLast? != some '-')
    guard (!code.isEmpty)
    let label ← Punycode.decode? code
    guard (mapped? label == some label && !label.contains '.' && isLabel label)
    return label
  else if isAscii written || isLabel written then some written
  else none

/-- A label in ASCII. -/
def asciiLabel (label : Text) : Text :=
  if isAscii label then label else mark ++ Punycode.encode label

/-- The labels of a domain name can be shown in one row. -/
def keepPlaces (labels : List Text) : Bool :=
  let directions := labels.map fun label => label.map Direction.ofChar
  !directions.any (fun ds => ds.any Direction.turns) || directions.all Direction.keepPlaces

/-- A domain name in ASCII; nothing if the text is none. -/
def ascii? (t : Text) : Option Text := do
  let labels ← (Text.piecesAt '.' (← mapped? t)).mapM label?
  if keepPlaces labels then
    some (List.intercalate ['.'] (labels.map asciiLabel))
  else none

end RoutineAtlas.Domain
