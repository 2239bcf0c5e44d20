import RoutineAtlas.Text.Blank

/-!
# File patterns

Patterns for file names: `?` stands for one character, `*` for any run of characters, and brackets
for one character of a set. Two asterisks stand for any directories and have to fill a whole
component.
-/

namespace RoutineAtlas

/-- Characters of a set: one, or all between two. -/
inductive GlobChars where
  | one (c : Char)
  | between (lo hi : Char)
deriving DecidableEq, Repr

/-- The character is in the set. -/
def GlobChars.contains : GlobChars → Char → Bool
  | one c, d => c == d
  | between lo hi, d => lo ≤ d && d ≤ hi

/-- A piece of a pattern. -/
inductive GlobPiece where
  | literal (c : Char)
  | anyChar
  | anyRun
  | anyDirectories
  | within (sets : List GlobChars)
  | except (sets : List GlobChars)
deriving DecidableEq, Repr

/-- Why a text is no pattern. -/
inductive GlobFault where
  | wildcards
  | recursiveWildcards
  | range
deriving DecidableEq, Repr

/-- What is wrong with a pattern, and at which character. -/
structure GlobError where
  position : Nat
  fault : GlobFault
deriving DecidableEq, Repr

namespace GlobError

/-- What is wrong with a pattern, in prose. -/
def message (e : GlobError) : String :=
  let fault := match e.fault with
    | .wildcards => "wildcards are either regular `*` or recursive `**`"
    | .recursiveWildcards => "recursive wildcards must form a single path component"
    | .range => "invalid range pattern"
  "Pattern syntax error near position " ++ toString e.position ++ ": " ++ fault

end GlobError

/-- How pieces of a pattern match some characters. -/
inductive GlobOutcome where
  | accepted
  /-- A character does not match; one of the ends may. -/
  | differs
  /-- Pieces are left after the last character, so that no end matches either. -/
  | exhausted
deriving DecidableEq, Repr

/-- A pattern for file names. -/
structure Glob where
  pieces : List GlobPiece
deriving DecidableEq, Repr

namespace Glob

/-- The sets that the characters between brackets write. -/
def globChars : Text → List GlobChars
  | lo :: '-' :: hi :: rest => .between lo hi :: globChars rest
  | c :: rest => .one c :: globChars rest
  | [] => []

/-- The sets in brackets, after the opening bracket, and how many characters they take together
with the closing one. The first character is taken as it is, even a closing bracket. -/
def bracketed? (cs : Text) : Option (List GlobChars × Nat) :=
  match cs with
  | [] => none
  | first :: rest =>
    if rest.contains ']' then
      let inner := first :: rest.takeWhile (· != ']')
      some (globChars inner, inner.length + 1)
    else none

/-- The piece that brackets write, and how many characters it takes after the opening bracket. -/
def bracketPiece? (cs : Text) : Option (GlobPiece × Nat) :=
  match cs with
  | '!' :: rest => (bracketed? rest).map fun (sets, length) => (.except sets, length + 1)
  | _ => (bracketed? cs).map fun (sets, length) => (.within sets, length)

/-- Add the piece for two asterisks, unless the one before it already stands for directories. -/
def addDirectories (pieces : List GlobPiece) : List GlobPiece :=
  match pieces with
  | .anyDirectories :: _ :: _ => pieces
  | _ => .anyDirectories :: pieces

/-- Read a pattern from position `position` on. The first `skip` characters have been read,
`previous` is the character before, and `pieces` is what has been read, last first. -/
def readFrom (position skip : Nat) (previous : Option Char) (pieces : List GlobPiece) :
    Text → Except GlobError (List GlobPiece)
  | [] => .ok pieces.reverse
  | c :: cs =>
    match skip with
    | skip + 1 => readFrom (position + 1) skip (some c) pieces cs
    | 0 =>
      if c == '?' then readFrom (position + 1) 0 (some c) (.anyChar :: pieces) cs
      else if c == '*' then
        let more := (cs.takeWhile (· == '*')).length
        if more == 0 then readFrom (position + 1) 0 (some c) (.anyRun :: pieces) cs
        else if more == 1 then
          if previous.all (· == '/') then
            match cs.drop 1 with
            | [] => readFrom (position + 1) 1 (some c) (addDirectories pieces) cs
            | next :: _ =>
              if next == '/' then readFrom (position + 1) 2 (some c) (addDirectories pieces) cs
              else .error ⟨position + 2, .recursiveWildcards⟩
          else .error ⟨position - 1, .recursiveWildcards⟩
        else .error ⟨position + 2, .wildcards⟩
      else if c == '[' then
        match bracketPiece? cs with
        | some (piece, length) => readFrom (position + 1) length (some c) (piece :: pieces) cs
        | none => .error ⟨position, .range⟩
      else readFrom (position + 1) 0 (some c) (.literal c :: pieces) cs

/-- The pattern that a text writes. -/
def ofText (t : Text) : Except GlobError Glob :=
  (readFrom 0 0 none [] t).map Glob.mk

/-- Try the characters and each of their ends in turn, as long as they differ. -/
def tryEnds (p : Text → GlobOutcome) : Text → GlobOutcome
  | [] => p []
  | c :: cs =>
    match p (c :: cs) with
    | .differs => tryEnds p cs
    | outcome => outcome

/-- Try the ends of the characters after a separator in turn, and the empty one, as long as they
differ. -/
def tryDirectories (p : Text → GlobOutcome) : Text → GlobOutcome
  | [] => p []
  | c :: cs =>
    match if c == '/' then p cs else .differs with
    | .differs => tryDirectories p cs
    | outcome => outcome

/-- Match pieces with characters. -/
def matchPieces : List GlobPiece → Text → GlobOutcome
  | [], cs => if cs.isEmpty then .accepted else .differs
  | .anyRun :: rest, cs => tryEnds (matchPieces rest) cs
  | .anyDirectories :: rest, cs =>
    match matchPieces rest cs with
    | .differs => tryDirectories (matchPieces rest) cs
    | outcome => outcome
  | _ :: _, [] => .exhausted
  | .literal c :: rest, d :: cs => if c == d then matchPieces rest cs else .differs
  | .anyChar :: rest, _ :: cs => matchPieces rest cs
  | .within sets :: rest, d :: cs =>
    if sets.any (·.contains d) then matchPieces rest cs else .differs
  | .except sets :: rest, d :: cs =>
    if sets.any (·.contains d) then .differs else matchPieces rest cs

/-- The pattern matches a file name. -/
def accepts (g : Glob) (name : Text) : Bool :=
  matchPieces g.pieces name == .accepted

end Glob

end RoutineAtlas
