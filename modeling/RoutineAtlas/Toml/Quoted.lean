import RoutineAtlas.Text.Percent

/-!
# Quoted text of TOML

Text between double quotes, in which a backslash starts an escape, and between single quotes, in
which it does not. Three quotes instead of one enclose text of several lines. Each reader starts
after the opening quotes and gives the text and what follows the closing ones.
-/

namespace RoutineAtlas.Toml

/-- A character that may not stand in a text or a comment. -/
def isForbidden (c : Char) : Bool :=
  (c.toNat < 0x20 && c != '\t') || c.toNat == 0x7F

/-- The character with a hexadecimal number of `count` digits. -/
def numberedChar? (count : Nat) (digits : Text) : Option Char := do
  let values ← (digits.take count).mapM Text.hexDigitValue?
  let n := values.foldl (fun n v => n * 16 + v) 0
  if values.length == count && n.isValidChar then some (Char.ofNat n) else none

/-- The character that an escape stands for, and the length of the escape after its backslash. -/
def escape? (t : Text) : Option (Char × Nat) :=
  match t with
  | 'b' :: _ => some ('\x08', 1)
  | 't' :: _ => some ('\t', 1)
  | 'n' :: _ => some ('\n', 1)
  | 'f' :: _ => some ('\x0c', 1)
  | 'r' :: _ => some ('\r', 1)
  | '"' :: _ => some ('"', 1)
  | '\\' :: _ => some ('\\', 1)
  | 'u' :: digits => (numberedChar? 4 digits).map (·, 5)
  | 'U' :: digits => (numberedChar? 8 digits).map (·, 9)
  | _ => none

/-- Put a character before the text that a reader gives. -/
def consText (c : Char) (result : Option (Text × Text)) : Option (Text × Text) :=
  result.map fun (t, rest) => (c :: t, rest)

/-- Text between double quotes on one line. The first `skip` characters have been read. -/
def basicText (skip : Nat) : Text → Option (Text × Text)
  | [] => none
  | c :: cs =>
    if skip ≠ 0 then basicText (skip - 1) cs
    else if c == '"' then some ([], cs)
    else if c == '\\' then
      match escape? cs with
      | some (e, length) => consText e (basicText length cs)
      | none => none
    else if isForbidden c then none
    else consText c (basicText 0 cs)

/-- Text between single quotes on one line. -/
def literalText : Text → Option (Text × Text)
  | [] => none
  | c :: cs =>
    if c == '\x27' then some ([], cs)
    else if isForbidden c then none
    else consText c (literalText cs)

/-- What a run of quotes means where three of them may end a text: the number of quotes that still
belong to it and what follows the end. -/
def closing? (quote : Char) (t : Text) : Option (Nat × Text) :=
  let run := (t.takeWhile (· == quote)).length
  if run < 3 then none
  else
    let own := min (run - 3) 2
    some (own, t.drop (3 + own))

/-- The length of the blanks and line ends at the start of a text. -/
def gapLength : Text → Nat
  | [] => 0
  | '\r' :: '\n' :: rest => gapLength rest + 2
  | c :: rest => if c == ' ' || c == '\t' || c == '\n' then gapLength rest + 1 else 0

/-- The length of the blanks and line ends that a backslash at the end of a line takes with it;
nothing if no line ends there. -/
def lineJoin? (t : Text) : Option Nat :=
  match t.dropWhile fun c => c == ' ' || c == '\t' with
  | '\n' :: _ => some (gapLength t)
  | '\r' :: '\n' :: _ => some (gapLength t)
  | _ => none

/-- Text of several lines between double quotes. The first `skip` characters have been read. A line
ends with a line feed, whichever way it was written. -/
def basicLines (skip : Nat) : Text → Option (Text × Text)
  | [] => none
  | c :: cs =>
    if skip ≠ 0 then basicLines (skip - 1) cs
    else if c == '"' then
      match closing? '"' (c :: cs) with
      | some (own, rest) => some (List.replicate own '"', rest)
      | none => consText '"' (basicLines 0 cs)
    else if c == '\\' then
      match escape? cs, lineJoin? cs with
      | some (e, length), _ => consText e (basicLines length cs)
      | none, some length => basicLines length cs
      | none, none => none
    else if c == '\n' then consText '\n' (basicLines 0 cs)
    else if c == '\r' && cs.head? == some '\n' then basicLines 0 cs
    else if isForbidden c then none
    else consText c (basicLines 0 cs)

/-- Text of several lines between single quotes. -/
def literalLines : Text → Option (Text × Text)
  | [] => none
  | c :: cs =>
    if c == '\x27' then
      match closing? '\x27' (c :: cs) with
      | some (own, rest) => some (List.replicate own '\x27', rest)
      | none => consText '\x27' (literalLines cs)
    else if c == '\n' then consText '\n' (literalLines cs)
    else if c == '\r' && cs.head? == some '\n' then literalLines cs
    else if isForbidden c then none
    else consText c (literalLines cs)

/-- The text without a line end at its start. -/
def dropLineEnd (t : Text) : Text :=
  match t with
  | '\n' :: rest => rest
  | '\r' :: '\n' :: rest => rest
  | _ => t

/-- The quoted text at the start of a text, and what follows; nothing if none starts there. -/
def quotedText? (t : Text) : Option (Text × Text) :=
  match t with
  | '"' :: '"' :: '"' :: rest => basicLines 0 (dropLineEnd rest)
  | '\x27' :: '\x27' :: '\x27' :: rest => literalLines (dropLineEnd rest)
  | '"' :: rest => basicText 0 rest
  | '\x27' :: rest => literalText rest
  | _ => none

end RoutineAtlas.Toml
