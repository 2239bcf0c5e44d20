/-!
# Blank characters

The characters that separate words of source text: the Unicode `White_Space` property. Trimming,
splitting at a character and the other small cuts that only look at characters stand here too.
-/

namespace RoutineAtlas

/-- Source text as a list of characters. Columns, lengths and comparisons all count characters, so
a column is an index into such a list. -/
abbrev Text := List Char

/-- The characters with the Unicode property `White_Space`. -/
def isBlank (c : Char) : Bool :=
  let n := c.toNat
  (0x09 ≤ n && n ≤ 0x0D) || n == 0x20 || n == 0x85 || n == 0xA0 || n == 0x1680 ||
    (0x2000 ≤ n && n ≤ 0x200A) || n == 0x2028 || n == 0x2029 || n == 0x202F || n == 0x205F ||
    n == 0x3000

/-- The pieces of a list between the occurrences of `sep`; always at least one. -/
def piecesBetween {α : Type} [BEq α] (sep : α) : List α → List (List α)
  | [] => [[]]
  | c :: cs =>
    if c == sep then [] :: piecesBetween sep cs
    else
      match piecesBetween sep cs with
      | [] => [[c]]
      | piece :: rest => (c :: piece) :: rest

namespace Text

/-- Text without its leading blanks. -/
def trimStart (t : Text) : Text :=
  t.dropWhile isBlank

/-- Text without its trailing blanks. -/
def trimEnd (t : Text) : Text :=
  (t.reverse.dropWhile isBlank).reverse

/-- Text without the blanks around it. -/
def trim (t : Text) : Text :=
  t.trimStart.trimEnd

/-- Text that holds nothing but blanks. -/
def isBlankOnly (t : Text) : Bool :=
  t.all isBlank

/-- The pieces between the occurrences of `sep`; always at least one. -/
def piecesAt (sep : Char) (t : Text) : List Text :=
  piecesBetween sep t

/-- The order of texts by their characters: the first difference decides, and a text comes before
its extensions. -/
def le : Text → Text → Bool
  | [], _ => true
  | _ :: _, [] => false
  | c :: cs, d :: ds => if c == d then le cs ds else c.toNat < d.toNat

/-- The text holds `part` somewhere. -/
def holds (t part : Text) : Bool :=
  match t with
  | [] => part.isEmpty
  | c :: cs => part.isPrefixOf (c :: cs) || Text.holds cs part

/-- Text holding the characters of a string. -/
def ofString (s : String) : Text :=
  s.toList

end Text

end RoutineAtlas
