import RoutineAtlas.Text.Percent
import RoutineAtlas.Text.Utf8
import RoutineAtlas.Url.Address
import RoutineAtlas.Url.Domain
import RoutineAtlas.Url.Error

/-!
# Hosts

The host of a URL is a name or an address. Where the scheme of the URL asks for a host the name is a
domain name; elsewhere it may be nearly anything.
-/

namespace RoutineAtlas

/-- A printable ASCII character; no other is kept anywhere in a URL. -/
def isUrlPrintable (c : Char) : Bool :=
  0x20 ≤ c.toNat && c.toNat < 0x7F

/-- The host of a URL. -/
inductive Host where
  | name (text : Text)
  | ipv4 (address : Ipv4)
  | ipv6 (address : Ipv6)
deriving DecidableEq, Repr

namespace Host

/-- The text of a host. -/
def toText : Host → Text
  | name t => t
  | ipv4 a => a.toText
  | ipv6 a => '[' :: a.toText ++ [']']

/-- The machine itself. -/
def isLocal (h : Host) : Bool :=
  h == name "localhost".toList

/-- A character that no host may hold. -/
def isForbidden (c : Char) : Bool :=
  c.toNat == 0 || "\t\n\r #/:<>?@[\\]^|".toList.contains c

/-- The address that a text writes in square brackets. -/
def ofBrackets (t : Text) : Except UrlError Host :=
  if t.getLast? == some ']' then
    match Ipv6.ofText? (t.tail.dropLast) with
    | some a => .ok (ipv6 a)
    | none => .error .invalidIpv6
  else .error .invalidIpv6

/-- The host that a text writes where a domain name is asked for. -/
def ofDomain (t : Text) : Except UrlError Host :=
  if t.head? == some '[' then ofBrackets t
  else
    match (Text.ofUtf8? (Text.percentBytes t)).bind Domain.ascii? with
    | none => .error .invalidDomain
    | some [] => .error .emptyHost
    | some domain =>
      if Ipv4.isMeant domain then
        match Ipv4.ofText? domain with
        | some a => .ok (ipv4 a)
        | none => .error .invalidIpv4
      else .ok (name domain)

/-- The host that a text writes where any name will do, even an empty one. -/
def ofAny (t : Text) : Except UrlError Host :=
  if t.head? == some '[' then ofBrackets t
  else if t.any isForbidden then .error .invalidHost
  else .ok (name (Text.percentEncode isUrlPrintable t))

end Host

end RoutineAtlas
