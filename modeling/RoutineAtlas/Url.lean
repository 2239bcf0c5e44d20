import RoutineAtlas.Path
import RoutineAtlas.Url.Authority

/-!
# URLs

URLs in normal form, and reading them from text as browsers do: the scheme is made small, dot
segments are resolved, and characters that cannot stand are percent-encoded. A URL stands for the
path of a file if it names no other host than the machine itself.
-/

namespace RoutineAtlas

/-- A URL in normal form. -/
structure Url where
  scheme : Text
  /-- What stands between `//` and the path, if there is a `//`. -/
  authority : Option Authority
  path : Text
  query : Option Text
  fragment : Option Text
deriving DecidableEq, Repr

namespace Url

/-- The text of a URL. A path that starts with `//` is told from an authority by `/.` before it. -/
def toText (u : Url) : Text :=
  let place : Text :=
    match u.authority with
    | some a => '/' :: '/' :: a.toText ++ u.path
    | none => if ['/', '/'].isPrefixOf u.path then '/' :: '.' :: u.path else u.path
  let query := (u.query.map ('?' :: ·)).getD []
  let fragment := (u.fragment.map ('#' :: ·)).getD []
  u.scheme ++ ':' :: place ++ query ++ fragment

/-- The text of a URL as a string. -/
def toString (u : Url) : String :=
  String.ofList u.toText

/-- The scheme of files. -/
def fileScheme : Text :=
  "file".toList

/-- The URL is of the scheme `file`. -/
def isFile (u : Url) : Bool :=
  u.scheme == fileScheme

/-! ## Characters -/

/-- The characters kept in a fragment. -/
def keptInFragment : Char → Bool :=
  keepsBut " \"<>`"

/-- The characters kept in a part of a file's path. -/
def keptInFilePart : Char → Bool :=
  keepsBut " \"<>`#?\x7b\x7d/%\\"

/-- The characters kept in a query. -/
def keptInQuery (special : Bool) : Char → Bool :=
  keepsBut (if special then " \"#<>\x27" else " \"#<>")

/-! ## Reading -/

/-- The schemes whose URLs always have a host, with their usual ports. -/
def specialSchemes : List (Text × Nat) :=
  [("http", 80), ("https", 443), ("ws", 80), ("wss", 443), ("ftp", 21)].map fun entry =>
    (entry.1.toList, entry.2)

/-- Text without the control characters and blanks at its ends. -/
def trimmed (t : Text) : Text :=
  let isEdge (c : Char) : Bool := c.toNat ≤ 0x20
  ((t.dropWhile isEdge).reverse.dropWhile isEdge).reverse

/-- The scheme of a URL in small letters, and what follows its colon. -/
def splitScheme? (t : Text) : Option (Text × Text) :=
  let isSchemeChar (c : Char) : Bool :=
    c.isAlphanum || c == '+' || c == '-' || c == '.' || isBreak c
  match t.dropWhile isSchemeChar with
  | ':' :: rest =>
    let scheme := withoutBreaks (t.takeWhile isSchemeChar)
    if scheme.head?.any Char.isAlpha then some (scheme.map Char.toLower, rest) else none
  | _ => none

/-- The text before the first `c`, and what follows it. -/
def cutAt (c : Char) (t : Text) : Text × Option Text :=
  match t.dropWhile (· != c) with
  | [] => (t, none)
  | _ :: rest => (t.takeWhile (· != c), some rest)

/-- What follows the slash at the start of a special URL's text, if there is one. -/
def afterSlash? (t : Text) : Option Text :=
  match t.dropWhile isBreak with
  | c :: rest => if isSlash c then some rest else none
  | [] => none

/-- The host and the path of a URL of the scheme `file`. A host that is a drive is part of the
path, the host `localhost` goes without saying, and a path that starts with a drive has no host. -/
def readFile (t : Text) : Except UrlError (Host × Text) :=
  match afterSlash? t with
  | none => .ok (.name [], (readFilePath t).1)
  | some path =>
    match afterSlash? path with
    | none => .ok (.name [], (readFilePath path).1)
    | some rest =>
      let written := withoutBreaks (rest.takeWhile fun c => !isSlash c)
      if isDrive written then .ok (.name [], (readFilePath rest).1)
      else do
        let host ← if written.isEmpty then pure (.name []) else Host.ofDomain written
        let after := rest.dropWhile fun c => !isSlash c
        if host == .name [] || host.isLocal then return (.name [], (readFilePath after).1)
        else
          let (path, hasDrive) := readFilePath ((afterSlash? after).getD [])
          return (if hasDrive then .name [] else host, path)

/-- The authority and the path of a URL whose scheme is not `file`. Something `follows` the text if
the URL has a query or a fragment. -/
def readPlace (scheme : Text) (follows : Bool) (t : Text) :
    Except UrlError (Option Authority × Text) :=
  match specialSchemes.lookup scheme with
  | some port => do
    let rest := t.dropWhile isSlash
    let path := rest.dropWhile fun c => !isSlash c
    let (authority, _) ← Authority.ofText (some port) (follows || !path.isEmpty)
      (rest.takeWhile fun c => !isSlash c)
    return (some authority, readPath true (path.drop 1))
  | none =>
    match t with
    | '/' :: '/' :: rest => do
      let path := rest.dropWhile (· != '/')
      let (authority, further) ← Authority.ofText none (follows || !path.isEmpty)
        (rest.takeWhile (· != '/'))
      let path := if further.isEmpty then path else '/' :: further ++ path
      return (some authority, if path.isEmpty then [] else readPath false (path.drop 1))
    | '/' :: rest => .ok (none, readPath false rest)
    | _ => .ok (none, Text.percentEncode isUrlPrintable t)

/-- The URL that a text writes. -/
def ofText (t : Text) : Except UrlError Url := do
  match splitScheme? (trimmed t) with
  | none => throw .relative
  | some (scheme, rest) =>
    let (rest, fragment) := cutAt '#' rest
    let (place, query) := cutAt '?' rest
    let isFile := scheme == fileScheme
    let special := isFile || (specialSchemes.lookup scheme).isSome
    let (authority, path) ←
      if isFile then do
        let (host, path) ← readFile place
        pure (some (.ofHost host), path)
      else readPlace scheme (query.isSome || fragment.isSome) (withoutBreaks place)
    let written (keeps : Char → Bool) (t : Text) : Text :=
      Text.percentEncode keeps (withoutBreaks t)
    return {
      scheme := scheme
      authority := authority
      path := path
      query := query.map (written (keptInQuery special))
      fragment := fragment.map (written keptInFragment) }

/-! ## Files -/

/-- The path of a file that a URL stands for if it names no host but the machine itself. A path that
ends in a drive gets a slash after it. -/
def filePath? (u : Url) : Option Path :=
  let isHere := u.authority.all fun a => a.host == .name [] || a.host.isLocal
  if isHere && u.path.head? == some '/' then
    let bytes := Text.percentBytes u.path
    match bytes.reverse with
    | d :: c :: _ :: _ =>
      let endsInDrive := (Char.ofNat c.toNat).isAlpha && (d == 0x3A || d == 0x7C)
      some (.ofBytes (if endsInDrive then bytes ++ [0x2F] else bytes))
    | _ => some (.ofBytes bytes)
  else none

/-- A unit of a file's path as it stands in a URL. -/
def filePathUnit : PathUnit → Text
  | .char c => Text.percentEncode keptInFilePart [c]
  | .byte b => Text.percentByte b

/-- The URL of an absolute path. -/
def ofFilePath? (p : Path) : Option Url :=
  if p.isAbsolute then
    let parts := p.parts.tail.map fun part => part.written.flatMap filePathUnit
    some {
      scheme := fileScheme
      authority := some .empty
      path := pathOfSegments (if parts.isEmpty then [[]] else parts)
      query := none
      fragment := none }
  else none

end Url

end RoutineAtlas
