import RoutineAtlas.Text.Blank

/-!
# Fuzzy matching

How well a name fits what a user has typed. A query is made of atoms, each of which has to fit:
most match their characters anywhere in the name as long as the order is kept, some only at one
place. Matches at the start of a word and without gaps score best.

Names are ASCII, and an atom with any other character fits none.
-/

namespace RoutineAtlas.Fuzzy

/-! ## Scores of single characters -/

/-- The classes of characters that show where words begin. -/
inductive CharClass where
  | blank
  | delimiter
  | nonWord
  | lower
  | upper
  | number
deriving DecidableEq, Repr

/-- The class of a character. -/
def CharClass.of (c : Char) : CharClass :=
  if 'a' ≤ c && c ≤ 'z' then lower
  else if 'A' ≤ c && c ≤ 'Z' then upper
  else if c.isDigit then number
  else if c == ' ' || (0x09 ≤ c.toNat && c.toNat ≤ 0x0D && c.toNat != 0x0B) then blank
  else if "/,:;|".toList.contains c then delimiter
  else nonWord

/-- What a match of a character is worth beyond the usual, given the class before it. -/
def bonus (before current : CharClass) : Nat :=
  let isWord := current == .lower || current == .upper || current == .number
  if isWord && before == .blank then 10
  else if isWord && before == .delimiter then 9
  else if isWord && before == .nonWord then 8
  else if before == .lower && current == .upper then 5
  else if before != .number && current == .number then 5
  else if current == .blank then 10
  else if current == .nonWord then 8
  else 0

/-- A character of a name, as it is compared, with its bonus. -/
structure Spot where
  char : Char
  bonus : Nat
deriving DecidableEq, Repr

/-- The characters of a name. `ignoreCase` compares them in small letters; the classes are always
those of the name as written. -/
def spotsFrom (ignoreCase : Bool) (before : CharClass) : Text → List Spot
  | [] => []
  | c :: cs =>
    let current := CharClass.of c
    ⟨if ignoreCase then c.toLower else c, bonus before current⟩ ::
      spotsFrom ignoreCase current cs

/-- The characters of a whole name; a name begins like a word. -/
def spots (ignoreCase : Bool) (name : Text) : List Spot :=
  spotsFrom ignoreCase .blank name

/-- The score of a matched character. -/
def matchScore : Nat := 16

/-- What the first character of a gap takes from the score. -/
def gapStart : Nat := 3

/-- What every further character of a gap takes from the score. -/
def gapExtension : Nat := 1

/-- The least bonus of a match right after another. -/
def consecutiveBonus : Nat := 4

/-- The bonus from which on a match begins a word. -/
def boundaryBonus : Nat := 8

/-- The score of a match's first character. -/
def firstScore (s : Spot) : Nat :=
  matchScore + 2 * s.bonus

/-! ## Runs -/

/-- Where the score of a run stands. -/
structure Run where
  score : Nat
  /-- The bonus that the matches at hand began with. -/
  firstBonus : Nat
  consecutive : Bool
  inGap : Bool
  /-- What is still to be matched; the last character stays. -/
  needle : Text

/-- The score after one more character of the name. -/
def Run.step (r : Run) (s : Spot) : Run :=
  if r.needle.head? == some s.char then
    let raised := r.consecutive && boundaryBonus ≤ s.bonus && r.firstBonus < s.bonus
    let firstBonus := if !r.consecutive || raised then s.bonus else r.firstBonus
    let gained :=
      if r.consecutive then max (max s.bonus firstBonus) consecutiveBonus else s.bonus
    let needle := match r.needle with
      | _ :: d :: ds => d :: ds
      | other => other
    ⟨r.score + matchScore + gained, firstBonus, true, false, needle⟩
  else
    let penalty := if r.inGap then gapExtension else gapStart
    ⟨r.score - penalty, r.firstBonus, false, true, r.needle⟩

/-- The score of a needle over some characters of a name, the first of which it matches. -/
def runScore (needle : Text) (part : List Spot) : Nat :=
  match part with
  | [] => 0
  | first :: rest =>
    let needle := if needle.length ≤ 1 then needle else needle.tail
    let start : Run := ⟨firstScore first, first.bonus, true, false, needle⟩
    (rest.foldl Run.step start).score

/-! ## The best match with gaps -/

/-- The score of the best match that ends at a character, and the bonus of the matches right
before it. -/
structure Cell where
  score : Nat
  bonus : Nat
deriving DecidableEq, Repr

/-- The best score before each column of a row with a gap at the end. -/
def gapScores (before : Nat) (previous : Option Cell) : List (Option Cell) → List Nat
  | [] => []
  | cell :: rest =>
    let here := max (((previous.map (·.score)).getD 0) - gapStart) (before - gapExtension)
    here :: gapScores here cell rest

/-- The cell that follows a cell and a gap score in the row before. -/
def nextCell (cell : Option Cell) (gap : Nat) (s : Spot) : Cell :=
  match cell with
  | none => ⟨gap + s.bonus + matchScore, s.bonus⟩
  | some c =>
    let kept := max c.bonus consecutiveBonus
    let kept := if boundaryBonus ≤ s.bonus && kept < s.bonus then s.bonus else kept
    let straight := c.score + max kept s.bonus
    let skipped := gap + s.bonus
    if skipped < straight then ⟨straight + matchScore, kept⟩
    else ⟨skipped + matchScore, s.bonus⟩

/-- The row for the needle character `c`, given the row before it with its gap scores. A cell is
filled only from column `first` on; `column` is that of the first character at hand. -/
def nextRow (c : Char) (first column : Nat) :
    List (Option Cell) → List Nat → List Spot → List (Option Cell)
  | cell :: cells, gap :: gaps, s :: part =>
    (if s.char == c && first ≤ column then some (nextCell cell gap s) else none) ::
      nextRow c first (column + 1) cells gaps part
  | _, _, _ => []

/-- The row for the first needle character. -/
def firstRow (c : Char) (part : List Spot) : List (Option Cell) :=
  part.map fun s => if s.char == c then some ⟨firstScore s, s.bonus⟩ else none

/-- The last row, given the row of the needle characters before. Every character comes with the
column from which on it may be matched. -/
def lastRow (part : List Spot) (row : List (Option Cell)) :
    List (Char × Nat) → List (Option Cell)
  | [] => row
  | (c, first) :: rest =>
    let next := none :: nextRow c first 1 row (gapScores 0 none row) part.tail
    lastRow part next rest

/-- The columns at which the characters are first met one after the other. -/
def greedyColumns (column : Nat) : Text → List Spot → Option (List Nat)
  | [], _ => some []
  | _ :: _, [] => none
  | c :: cs, s :: part =>
    if s.char == c then (greedyColumns (column + 1) cs part).map (column :: ·)
    else greedyColumns (column + 1) (c :: cs) part

/-- The best score of a needle over some characters of a name. -/
def bestScore (needle : Text) (part : List Spot) : Option Nat := do
  let columns ← greedyColumns 0 needle part
  match needle.zip columns with
  | [] => none
  | (c, _) :: rest => ((lastRow part (firstRow c part) rest).filterMap id).map (·.score) |>.max?

/-! ## Atoms -/

/-- How an atom has to fit a name. -/
inductive AtomKind where
  | fuzzy
  | substring
  | start
  | finish
  | exact
deriving DecidableEq, Repr

/-- A part of a query. -/
structure Atom where
  kind : AtomKind
  negative : Bool
  ignoreCase : Bool
  needle : Text
deriving DecidableEq, Repr

/-- The score of a needle that has to fill the characters. A needle that minds the case has to
fill the whole name. -/
def fillScore (needle : Text) (name part : List Spot) (ignoreCase : Bool) : Option Nat :=
  let compared := if ignoreCase then part else name
  if compared.map (·.char) == needle then some (runScore needle part) else none

/-- The ends of a list at which the needle starts. -/
def occurrences (needle : Text) : List Spot → List (List Spot)
  | [] => []
  | s :: part =>
    let rest := occurrences needle part
    if needle.isPrefixOf ((s :: part).map (·.char)) then (s :: part) :: rest else rest

/-- The ends of a list at which the needle starts, from the left, without those that overlap one
before. The first `skipped` characters are passed over. -/
def separateOccurrences (needle : Text) : (skipped : Nat) → List Spot → List (List Spot)
  | _, [] => []
  | skipped + 1, _ :: part => separateOccurrences needle skipped part
  | 0, s :: part =>
    if needle.isPrefixOf ((s :: part).map (·.char)) then
      (s :: part) :: separateOccurrences needle (needle.length - 1) part
    else separateOccurrences needle 0 part

/-- The places of a name that are looked at for a needle that has to stand there as it is. A needle
that is compared in small letters and has a letter among its first two characters may overlap
itself. One whose first letter comes later is looked for as written, and not at the end of the
name: as many characters are left out there as the needle has from its first letter on. -/
def substringPlaces (ignoreCase : Bool) (needle name : Text) : List (List Spot) :=
  let all := spots ignoreCase name
  if needle.length ≤ 1 then occurrences needle all
  else if ignoreCase then
    match needle.findIdx? Char.isLower with
    | some 0 => occurrences needle all
    | some 1 => occurrences needle all
    | some first =>
      separateOccurrences needle 0 ((spots false name).take (name.length + first - needle.length))
    | none => separateOccurrences needle 0 all
  else separateOccurrences needle 0 all

/-- The first of the places whose first character scores best. -/
def bestPlace (places : List (List Spot)) : Option (List Spot) :=
  let score (p : List Spot) : Nat := (p.head?.map firstScore).getD 0
  places.foldl (fun best p =>
    match best with
    | none => some p
    | some b => if score b < score p then some p else best) none

/-- The score of a needle that has to stand in the name as it is. -/
def substringScore (ignoreCase : Bool) (needle name : Text) : Option Nat :=
  (bestPlace (substringPlaces ignoreCase needle name)).map fun place =>
    runScore needle (place.take needle.length)

/-- The characters of a name from the first match of the needle's first character through the last
match of its last. -/
def window? (needle : Text) (name : List Spot) : Option (List Spot) := do
  let first ← needle.head?
  let last ← needle.getLast?
  let part := name.dropWhile (·.char != first)
  let _ ← greedyColumns 0 needle part
  return (part.reverse.dropWhile (·.char != last)).reverse

/-- The number of cells up to which the best match is looked for. -/
def cellLimit : Nat := 102400

/-- The score of the first match over some characters of a name, from the last place at which it
can begin. -/
def firstMatchScore (needle : Text) (part : List Spot) : Option Nat := do
  let finish ← (← greedyColumns 0 needle part).getLast?
  let ended := part.take (finish + 1)
  let begun ← (← greedyColumns 0 needle.reverse ended.reverse).getLast?
  return runScore needle (ended.drop (finish - begun))

/-- The score of a needle whose characters have to stand in the name in their order: that of the
best match, or of the first one if there is too much to be looked at. -/
def fuzzyScore (needle : Text) (name : List Spot) : Option Nat := do
  let part ← window? needle name
  if part.length == needle.length then return runScore needle part
  else if cellLimit < part.length * needle.length then firstMatchScore needle part
  else bestScore needle part

/-- The score of an atom that is not negated. -/
def Atom.score? (a : Atom) (text : Text) : Option Nat :=
  let name := spots a.ignoreCase text
  let n := a.needle.length
  if a.needle.any (fun c => 0x80 ≤ c.toNat) || name.length < n then none
  else
    match a.kind with
    | .start => fillScore a.needle name (name.take n) a.ignoreCase
    | .finish => fillScore a.needle name (name.drop (name.length - n)) a.ignoreCase
    | .exact => if name.length == n then fillScore a.needle name name a.ignoreCase else none
    | .substring =>
      if name.length == n then fillScore a.needle name name a.ignoreCase
      else substringScore a.ignoreCase a.needle text
    | .fuzzy =>
      if name.length == n then fillScore a.needle name name a.ignoreCase
      else if n == 1 then substringScore a.ignoreCase a.needle text
      else fuzzyScore a.needle name

/-- Text in which a backslash before a blank is dropped. -/
def unescapeBlanks : Text → Text
  | [] => []
  | '\\' :: ' ' :: rest => ' ' :: unescapeBlanks rest
  | c :: cs => c :: unescapeBlanks cs

/-- Read the exclamation mark that negates an atom. -/
def readNegation (t : Text) : Bool × Text :=
  match t with
  | '!' :: rest => (true, rest)
  | '\\' :: '!' :: rest => (false, '!' :: rest)
  | _ => (false, t)

/-- Read the mark at the start of an atom. -/
def readStart (t : Text) : AtomKind × Text :=
  match t with
  | '^' :: rest => (.start, rest)
  | '\x27' :: rest => (.substring, rest)
  | '\\' :: '^' :: rest => (.fuzzy, '^' :: rest)
  | '\\' :: '\x27' :: rest => (.fuzzy, '\x27' :: rest)
  | _ => (.fuzzy, t)

/-- Read the dollar sign at the end of an atom. The flag says that the sign is to be matched. -/
def readEnd (kind : AtomKind) (t : Text) : AtomKind × Text × Bool :=
  match t.reverse with
  | '$' :: '\\' :: rest => (kind, rest.reverse, true)
  | '$' :: rest => (if kind == .fuzzy then .finish else .exact, rest.reverse, false)
  | _ => (kind, t, false)

/-- The atom that a text writes. -/
def Atom.ofText (t : Text) : Atom :=
  let (negative, t) := readNegation t
  let (kind, t) := readStart t
  let (kind, t, dollar) := readEnd kind t
  let kind := if negative && kind == .fuzzy then .substring else kind
  let needle := unescapeBlanks t
  ⟨kind, negative, !needle.any Char.isUpper, if dollar then needle ++ ['$'] else needle⟩

/-- The pieces of a query: it is split at the blanks without a backslash before them. -/
def piecesFrom (afterBackslash : Bool) : Text → List Text
  | [] => [[]]
  | c :: cs =>
    if c == ' ' && !afterBackslash then [] :: piecesFrom false cs
    else
      match piecesFrom (c == '\\') cs with
      | [] => [[c]]
      | piece :: rest => (c :: piece) :: rest

/-- The atoms of a query. -/
def atoms (query : Text) : List Atom :=
  ((piecesFrom false query).map Atom.ofText).filter fun a => !a.needle.isEmpty

/-- What an atom adds to the score of a name; nothing if the name does not fit. -/
def Atom.contribution? (a : Atom) (name : Text) : Option Nat :=
  match a.negative, a.score? name with
  | false, score => score
  | true, some _ => none
  | true, none => some 0

/-- The score of a name; zero if it does not fit the query. -/
def score (query : List Atom) (name : Text) : Nat :=
  match query.mapM fun (a : Atom) => a.contribution? name with
  | some scores => scores.foldl (· + ·) 0
  | none => 0

end RoutineAtlas.Fuzzy
