import SelectorNavigation.Host.Ipv4
import SelectorNavigation.Host.Ipv6

/-!
# Hosts

A URI names a host by a name or by its address.
-/

namespace SelectorNavigation

/-- The host that a URI names. -/
inductive Host where
  /-- A name in normal form. -/
  | name (text : Text)
  | ipv4 (address : Ipv4)
  | ipv6 (address : Ipv6)
deriving DecidableEq, Repr

namespace Host

/-- The spelling of a host in a URI. -/
def toText : Host → Text
  | name text => text
  | ipv4 address => address.toText
  | ipv6 address => ['['] ++ address.toText ++ [']']

/-- The name of the host that a URI is read on. -/
def localName : Text := "localhost".toList

/-- The host that a URI is read on. -/
def isLocal (host : Host) : Bool :=
  host == name localName

end Host

end SelectorNavigation
