import SelectorNavigation.Host.Domain
import SelectorNavigation.Uri.Basic
import SelectorNavigation.Uri.PercentCoding
import SelectorNavigation.Uri.Scheme

/-!
# Reading authorities

An authority consists of user information in front of the last at-sign, a host, and a
port behind a colon.  A host in brackets is an IPv6 address.  Under a special scheme any
other host is percent-decoded and read as a domain name or, if it ends in a number, as an
IPv4 address; under another scheme it is kept as it is spelled.
-/

namespace SelectorNavigation

namespace Uri

/-- A text up to a sign, and what follows the first such sign if there is one. -/
def splitAtSign (sign : Char) (text : Text) : Text × Option Text :=
  (text.takeWhile (· != sign), (text.dropWhile (· != sign)).tail?)

/-- A domain name or an IPv4 address. -/
def readDomain? (text : Text) : Option Host := do
  let decoded ← (PercentCoding.decode text).decode?
  let name ← Host.domain? decoded
  if name.isEmpty then none
  else if Ipv4.isNumeric name then (Ipv4.read? name).map .ipv4
  else some (.name name)

/-- A name that is kept as it is spelled. -/
def readPlainHost? (text : Text) : Option Host :=
  let forbidden := fun character : Char =>
    character.toNat == 0 || " #/:<>?@[\\]^|".toList.contains character
  if text.any forbidden then none
  else some (.name (PercentCoding.encodeText PercentCoding.controls text))

/-- An IPv6 address in brackets, from what follows the opening one. -/
def readAddress? (text : Text) : Option Host :=
  if text.getLast? == some ']' then (Ipv6.read? text.dropLast).map .ipv6 else none

/-- The host in an authority. -/
def readHost? (kind : SchemeKind) : Text → Option Host
  | '[' :: rest => readAddress? rest
  | text => if kind.isSpecial then readDomain? text else readPlainHost? text

/-- A port number, which is left out when it is the usual one, and the text behind
its digits. -/
def readPort? (kind : SchemeKind) (text : Text) : Option (Option Nat × Text) :=
  let digits := text.takeWhile Char.isDigit
  let rest := text.dropWhile Char.isDigit
  let port := digits.foldl (fun value digit => 10 * value + (digit.toNat - 0x30)) 0
  if 0xFFFF < port || !(rest.isEmpty || rest.head? == some '\\') then none
  else if digits.isEmpty || kind.usualPort == some port then some (none, rest)
  else some (some port, rest)

/-- The host and port part of an authority, split at the colon outside brackets. -/
def splitPort (inBrackets : Bool) : Text → Text × Option Text
  | [] => ([], none)
  | character :: rest =>
      if character == ':' && !inBrackets then ([], some rest)
      else
        let inBrackets :=
          if character == '[' then true else if character == ']' then false else inBrackets
        let split := splitPort inBrackets rest
        (character :: split.1, split.2)

/-- User name and password as they are spelled in an authority. -/
def readUserinfo (text : Text) : Text :=
  let (user, password) := splitAtSign ':' text
  let encoded := PercentCoding.encodeText PercentCoding.inUserinfo
  encoded user ++
    match password with
    | none | some [] => []
    | some password => ':' :: encoded password

/-- The user and host parts of an authority, split at the last at-sign. -/
def splitUserinfo (text : Text) : Option Text × Text :=
  match text.reverse.dropWhile (· != '@') with
  | [] => (none, text)
  | _ :: user => (some user.reverse, (text.reverse.takeWhile (· != '@')).reverse)

/-- Read an authority and return the text behind it that still belongs to the path.
`atEnd` says that nothing follows the authority. -/
def readAuthority? (kind : SchemeKind) (text : Text) (atEnd : Bool) :
    Option (Authority × Text) := do
  let (user, hostAndPort) := splitUserinfo text
  let (hostText, portText) := splitPort false hostAndPort
  if user == some [] && hostAndPort.isEmpty && !atEnd then none
  else
    let userinfo := readUserinfo (user.getD [])
    if hostText.isEmpty then
      if kind.isSpecial || portText.isSome || !userinfo.isEmpty then none
      else return (Authority.empty, [])
    else
      let host ← readHost? kind hostText
      match portText with
      | none => return (⟨userinfo, some host, none⟩, [])
      | some portText =>
          let (port, rest) ← readPort? kind portText
          return (⟨userinfo, some host, port⟩, rest)

end Uri

end SelectorNavigation
