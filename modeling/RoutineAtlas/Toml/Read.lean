import RoutineAtlas.Toml.Quoted
import RoutineAtlas.Toml.Scalar

/-!
# Reading TOML

A document is read into its lines, each a member or the heading of a table, and the lines into
sections, a heading with the members below it. `Toml/Document.lean` puts the sections together.

Values may hold values, and each of them takes at least one character: the number of characters
bounds the recursion. Containers are nested less than 80 deep, and as many names at most lead to a
member or stand in a heading.
-/

namespace RoutineAtlas.Toml

/-- A member of a table: the names that lead to it and its value. -/
abbrev Member := List Text × Toml

/-- A section of a document. -/
structure Section where
  /-- The names in the heading; none before the first heading. -/
  path : List Text
  /-- The heading adds a table to a list of tables. -/
  isItem : Bool
  members : List Member
deriving Repr

/-- The text after the blanks at its start. -/
def skipBlanks (t : Text) : Text :=
  t.dropWhile fun c => c == ' ' || c == '\t'

/-- The text after the blanks, line ends and comments at its start; nothing if a character is there
that no comment may hold. -/
def skipGaps (inComment : Bool) : Text → Option Text
  | [] => some []
  | '\n' :: rest => skipGaps false rest
  | '\r' :: '\n' :: rest => skipGaps false rest
  | c :: rest =>
    if inComment then if isForbidden c then none else skipGaps true rest
    else if c == ' ' || c == '\t' then skipGaps false rest
    else if c == '#' then skipGaps true rest
    else some (c :: rest)

/-- The text after the end of a line, before which blanks and a comment may stand. -/
def skipLineEnd? (t : Text) : Option Text :=
  let t := skipBlanks t
  let t := if t.head? == some '#' then t.dropWhile fun c => !isForbidden c else t
  match t with
  | [] => some []
  | '\n' :: rest => some rest
  | '\r' :: '\n' :: rest => some rest
  | _ => none

/-- A character of a name without quotes. -/
def isBareNameChar (c : Char) : Bool :=
  c.isAlphanum || c == '_' || c == '-'

/-- A single name at the start of a text. -/
def name? (t : Text) : Option (Text × Text) :=
  match t with
  | '"' :: rest => basicText 0 rest
  | '\x27' :: rest => literalText rest
  | _ =>
    let bare := t.takeWhile isBareNameChar
    if bare.isEmpty then none else some (bare, t.dropWhile isBareNameChar)

/-- The depth that is refused. -/
def depthLimit : Nat := 80

/-- At most `bound` names at the start of a text, with dots between them and blanks around the
dots. -/
def namesWithin? : (bound : Nat) → Text → Option (List Text × Text)
  | 0, _ => none
  | bound + 1, t => do
    let (first, rest) ← name? (skipBlanks t)
    match skipBlanks rest with
    | '.' :: more =>
      let (others, rest) ← namesWithin? bound more
      return (first :: others, rest)
    | rest => return ([first], rest)

/-- The names at the start of a text. -/
def names? (t : Text) : Option (List Text × Text) :=
  namesWithin? (depthLimit - 1) t

/-- A character of a value without quotes. -/
def isScalarChar (c : Char) : Bool :=
  c.isAlphanum || c == '_' || c == '+' || c == '-' || c == '.' || c == ':'

/-- The value without quotes at the start of a text. A blank may stand between a date and a
time. -/
def scalarAt? (t : Text) : Option (Toml × Text) :=
  let run := t.takeWhile isScalarChar
  let rest := t.dropWhile isScalarChar
  match date? run, rest with
  | some (_, []), ' ' :: more =>
    if more.head?.any Char.isDigit then
      let clock := more.takeWhile isScalarChar
      (scalar? (run ++ ' ' :: clock)).map (·, more.dropWhile isScalarChar)
    else (scalar? run).map (·, rest)
  | _, _ => (scalar? run).map (·, rest)

/-- A field of a table on one line: a value as it was written, or a table that dotted names made,
which further such names can extend. -/
inductive Spread where
  | leaf (value : Toml)
  | branch (fields : List (Text × Spread))
deriving Repr, Inhabited

/-- The fields with a member put among them; nothing if its place is taken. -/
def putSpread : List Text → Toml → List (Text × Spread) → Option (List (Text × Spread))
  | [], _, _ => none
  | [name], v, fields =>
    match fields.lookup name with
    | some _ => none
    | none => some (fields ++ [(name, .leaf v)])
  | name :: path, v, fields =>
    match fields.lookup name with
    | none => do return fields ++ [(name, .branch (← putSpread path v []))]
    | some (.branch inner) => do
      let inner ← putSpread path v inner
      return fields.map fun field => if field.1 == name then (name, .branch inner) else field
    | some (.leaf _) => none

mutual

/-- The value of a spread table. -/
def Spread.value : Spread → Toml
  | .leaf v => v
  | .branch fields => .table (Spread.values fields)

/-- The fields of a spread table with their values. -/
def Spread.values : List (Text × Spread) → List (Text × Toml)
  | [] => []
  | (name, s) :: rest => (name, s.value) :: Spread.values rest

end

/-- The table that some members make; nothing if two of them are in each other's way. -/
def tableOf? (members : List Member) : Option Toml := do
  let fields ← members.foldlM (fun fields m => putSpread m.1 m.2 fields) []
  return .table (Spread.values fields)

mutual

/-- The value at the start of a text, inside of `depth` containers. -/
def value? : (bound depth : Nat) → Text → Option (Toml × Text)
  | 0, _, _ => none
  | bound + 1, depth, t =>
    match t with
    | '[' :: rest =>
      if depth + 1 < depthLimit then do
        let (items, rest) ← items? bound (depth + 1) rest
        return (.array items, rest)
      else none
    | '\x7b' :: rest =>
      if depth + 1 < depthLimit then do
        let (members, rest) ← firstMember? bound (depth + 1) (skipBlanks rest)
        return (← tableOf? members, rest)
      else none
    | '"' :: _ => (quotedText? t).map fun (s, rest) => (.string s, rest)
    | '\x27' :: _ => (quotedText? t).map fun (s, rest) => (.string s, rest)
    | _ => scalarAt? t

/-- The items of an array and what follows its end. A comma may follow the last of them. -/
def items? : (bound depth : Nat) → Text → Option (List Toml × Text)
  | 0, _, _ => none
  | bound + 1, depth, t => do
    match ← skipGaps false t with
    | ']' :: rest => return ([], rest)
    | t =>
      let (v, rest) ← value? bound depth t
      match ← skipGaps false rest with
      | ',' :: rest =>
        let (items, rest) ← items? bound depth rest
        return (v :: items, rest)
      | ']' :: rest => return ([v], rest)
      | _ => none

/-- The members of a table on one line, after the brace that opens it. -/
def firstMember? : (bound depth : Nat) → Text → Option (List Member × Text)
  | 0, _, _ => none
  | bound + 1, depth, t =>
    match t with
    | '\x7d' :: rest => some ([], rest)
    | _ => members? bound depth t

/-- The members of a table on one line and what follows its end. -/
def members? : (bound depth : Nat) → Text → Option (List Member × Text)
  | 0, _, _ => none
  | bound + 1, depth, t => do
    let (m, rest) ← member? bound depth t
    match skipBlanks rest with
    | ',' :: rest =>
      let (members, rest) ← members? bound depth rest
      return (m :: members, rest)
    | '\x7d' :: rest => return ([m], rest)
    | _ => none

/-- The member at the start of a text. -/
def member? : (bound depth : Nat) → Text → Option (Member × Text)
  | 0, _, _ => none
  | bound + 1, depth, t => do
    let (names, rest) ← names? t
    match rest with
    | '=' :: rest =>
      let (v, rest) ← value? bound depth (skipBlanks rest)
      return ((names, v), rest)
    | _ => none

end

/-- A line of a document. -/
inductive Line where
  | member (m : Member)
  | heading (path : List Text) (isItem : Bool)
deriving Repr

/-- The heading after its opening brackets. -/
def heading? (closing : Text) (isItem : Bool) (t : Text) : Option (Line × Text) := do
  let (names, rest) ← names? t
  if closing.isPrefixOf rest then some (.heading names isItem, rest.drop closing.length) else none

/-- The member or heading at the start of a text. -/
def line? (t : Text) : Option (Line × Text) :=
  match t with
  | '[' :: '[' :: rest => heading? [']', ']'] true rest
  | '[' :: rest => heading? [']'] false rest
  | _ => (member? (4 * t.length + 4) 0 t).map fun (m, rest) => (.member m, rest)

/-- The lines of a document. -/
def lines? : (bound : Nat) → Text → Option (List Line)
  | 0, _ => none
  | bound + 1, t => do
    match ← skipGaps false t with
    | [] => return []
    | t =>
      let (line, rest) ← line? t
      return line :: (← lines? bound (← skipLineEnd? rest))

/-- Lines gathered into sections, the first of which has no heading. -/
def sections (lines : List Line) : List Section :=
  let add (line : Line) (later : List Member × List Section) : List Member × List Section :=
    match line with
    | .member m => (m :: later.1, later.2)
    | .heading path isItem => ([], ⟨path, isItem, later.1⟩ :: later.2)
  let (members, rest) := lines.foldr add ([], [])
  ⟨[], false, members⟩ :: rest

/-- The sections of a document; nothing if the text is none. -/
def sections? (t : Text) : Option (List Section) :=
  (lines? (t.length + 1) t).map sections

end RoutineAtlas.Toml
