import RoutineAtlas.Url.Segment

/-!
# Authorities

What stands between `//` and the path of a URL: a user with a password, a host and a port.
-/

namespace RoutineAtlas

/-- What stands between `//` and the path of a URL. -/
structure Authority where
  /-- The user, and the password after a colon. -/
  user : Option Text
  host : Host
  /-- The port, unless it is the usual one. -/
  port : Option Nat
deriving DecidableEq, Repr

namespace Authority

/-- The text of an authority. -/
def toText (a : Authority) : Text :=
  let user := (a.user.map (· ++ ['@'])).getD []
  let port := (a.port.map fun n => ':' :: Nat.toDigits 10 n).getD []
  user ++ a.host.toText ++ port

/-- The authority of a file on some host. -/
def ofHost (h : Host) : Authority :=
  ⟨none, h, none⟩

/-- The authority that says nothing. -/
def empty : Authority :=
  ofHost (.name [])

/-- The characters kept in the name of a user. -/
def keptInUser : Char → Bool :=
  Url.keepsBut " \"<>`#?\x7b\x7d/:;=@[\\]^|"

/-- The text before the last `@`, if there is one, and the text after it. -/
def splitUser (t : Text) : Option Text × Text :=
  let host := (t.reverse.takeWhile (· != '@')).reverse
  (if host.length == t.length then none else some (t.take (t.length - host.length - 1)), host)

/-- The user and the password that a text writes; nothing if both are empty. -/
def readUser (t : Text) : Option Text :=
  let name := Text.percentEncode keptInUser (t.takeWhile (· != ':'))
  let password := Text.percentEncode keptInUser ((t.dropWhile (· != ':')).drop 1)
  let both := if password.isEmpty then name else name ++ ':' :: password
  if both.isEmpty then none else some both

/-- The text before the first colon outside of square brackets, and the text after it. -/
def splitPort (isInside : Bool) : Text → Text × Option Text
  | [] => ([], none)
  | c :: rest =>
    if c == ':' && !isInside then ([], some rest)
    else
      let (host, port) := splitPort (c == '[' || (isInside && c != ']')) rest
      (c :: host, port)

/-- The port that a text writes after its colon. -/
def readPort (usual : Option Nat) (t : Text) : Except UrlError (Option Nat) :=
  if t.all Char.isDigit then
    let port := Text.decimalValue t
    if t.isEmpty || usual == some port then .ok none
    else if 65535 < port then .error .invalidPort
    else .ok (some port)
  else .error .invalidPort

/-- The authority that a text writes, and what follows it: the port may end at a backslash. A URL
with a usual port always has a host, and so has one with a user or a port. Something `follows` the
text if it is not the last part of the URL; then an `@` is not enough for a host. -/
def ofText (usual : Option Nat) (follows : Bool) (t : Text) :
    Except UrlError (Authority × Text) := do
  let (user, rest) := splitUser t
  if user == some [] && rest.isEmpty && follows then throw .emptyHost
  let (host, port) := splitPort false rest
  if usual.isSome && host.isEmpty then throw .emptyHost
  let host ← if usual.isSome then Host.ofDomain host else Host.ofAny host
  let user := user.bind readUser
  if host == .name [] && (user.isSome || port.isSome) then throw .emptyHost
  let port := port.getD []
  let number ← readPort usual (port.takeWhile (· != '\\'))
  return (⟨user, host, number⟩, port.dropWhile (· != '\\'))

end Authority

end RoutineAtlas
