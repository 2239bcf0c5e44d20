import RoutineAtlas.Json

/-!
# Writing JSON

Two layouts: `Json.compact` on one line, and `Json.pretty` with one item per line and an indent of
two blanks. Characters outside ASCII are written as they are.
-/

namespace RoutineAtlas.Json

/-- The hexadecimal digit of a number below sixteen. -/
def hexDigit (n : Nat) : Char :=
  if n < 10 then Char.ofNat (0x30 + n) else Char.ofNat (0x57 + n)

/-- A character inside a quoted string. -/
def escapeChar (c : Char) : List Char :=
  if c == '"' then ['\\', '"']
  else if c == '\\' then ['\\', '\\']
  else if c == '\n' then ['\\', 'n']
  else if c == '\r' then ['\\', 'r']
  else if c == '\t' then ['\\', 't']
  else if c == '\x08' then ['\\', 'b']
  else if c == '\x0c' then ['\\', 'f']
  else if c.toNat < 0x20 then
    ['\\', 'u', '0', '0', hexDigit (c.toNat / 16), hexDigit (c.toNat % 16)]
  else [c]

/-- A string between quotes. -/
def quote (s : String) : String :=
  String.ofList ('"' :: s.toList.flatMap escapeChar ++ ['"'])

/-- A value that is neither an array nor an object; nothing for those two. -/
def scalarText : Json → String
  | null => "null"
  | bool true => "true"
  | bool false => "false"
  | int n => toString n
  | float x => String.ofList x.scientificText
  | string s => quote s
  | array _ => ""
  | object _ => ""

mutual

/-- A value on one line, without blanks. -/
def compact : Json → String
  | array items => "[" ++ compactItems items ++ "]"
  | object fields => "\x7b" ++ compactFields fields ++ "\x7d"
  | v => scalarText v

/-- The items of an array, separated by commas. -/
def compactItems : List Json → String
  | [] => ""
  | [v] => compact v
  | v :: vs => compact v ++ "," ++ compactItems vs

/-- The members of an object, separated by commas. -/
def compactFields : List (String × Json) → String
  | [] => ""
  | [(k, v)] => quote k ++ ":" ++ compact v
  | (k, v) :: fields => quote k ++ ":" ++ compact v ++ "," ++ compactFields fields

end

/-- The start of a line at the given depth. -/
def indent (depth : Nat) : String :=
  String.ofList ('\n' :: List.replicate (2 * depth) ' ')

mutual

/-- A value with each item on a line of its own, at the given depth. -/
def prettyAt (depth : Nat) : Json → String
  | array [] => "[]"
  | array items => "[" ++ prettyItems (depth + 1) items ++ indent depth ++ "]"
  | object [] => "\x7b\x7d"
  | object fields => "\x7b" ++ prettyFields (depth + 1) fields ++ indent depth ++ "\x7d"
  | v => scalarText v

/-- The items of an array, each on its line. -/
def prettyItems (depth : Nat) : List Json → String
  | [] => ""
  | [v] => indent depth ++ prettyAt depth v
  | v :: vs => indent depth ++ prettyAt depth v ++ "," ++ prettyItems depth vs

/-- The members of an object, each on its line. -/
def prettyFields (depth : Nat) : List (String × Json) → String
  | [] => ""
  | [(k, v)] => indent depth ++ quote k ++ ": " ++ prettyAt depth v
  | (k, v) :: fields =>
    indent depth ++ quote k ++ ": " ++ prettyAt depth v ++ "," ++ prettyFields depth fields

end

/-- A value with each item on a line of its own. -/
def pretty (v : Json) : String :=
  prettyAt 0 v

end RoutineAtlas.Json
