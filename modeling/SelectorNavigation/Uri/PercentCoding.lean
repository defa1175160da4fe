import SelectorNavigation.Text.Hexadecimal

/-!
# Percent coding

A byte that has no place in a part of a URI is written as a percent sign and two
hexadecimal digits.  Which bytes these are depends on the part; controls and
bytes outside ASCII are among them everywhere.
-/

namespace SelectorNavigation

namespace PercentCoding

/-- The bytes that are percent-encoded in one part of a URI. -/
abbrev EncodeSet := UInt8 → Bool

/-- The byte is one of the given ASCII characters. -/
def isOneOf (characters : String) (byte : UInt8) : Bool :=
  characters.toList.any fun character => character.toNat == byte.toNat

/-- Controls and bytes outside ASCII. -/
def controls : EncodeSet := fun byte => byte < 0x20 || 0x7F ≤ byte

/-- What is encoded in a fragment. -/
def inFragment : EncodeSet := fun byte => controls byte || isOneOf " \"<>\x60" byte

/-- What is encoded in a query. -/
def inQuery : EncodeSet := fun byte => controls byte || isOneOf " \"#<>" byte

/-- What is encoded in the query of a URI with a special scheme. -/
def inSpecialQuery : EncodeSet := fun byte => inQuery byte || isOneOf "'" byte

/-- What is encoded in the path of a URI that is read. -/
def inPath : EncodeSet := fun byte => inFragment byte || isOneOf "#?\x7b\x7d" byte

/-- What is encoded in a path segment that is made from a file name, so that it
reads back as that name. -/
def inFileName : EncodeSet := fun byte => inPath byte || isOneOf "/%\\" byte

/-- What is encoded in a user name or password. -/
def inUserinfo : EncodeSet := fun byte => inPath byte || isOneOf "/:;=@[\\]^|" byte

/-- One byte in a part of a URI. -/
def encodeByte (set : EncodeSet) (byte : UInt8) : Text :=
  if set byte then ['%', hexDigit (byte.toNat / 16), hexDigit (byte.toNat % 16)]
  else [Char.ofNat byte.toNat]

/-- Bytes in a part of a URI. -/
def encode (set : EncodeSet) (bytes : Bytes) : Text :=
  bytes.flatMap (encodeByte set)

/-- A text in a part of a URI.  Percent signs in it are kept. -/
def encodeText (set : EncodeSet) (text : Text) : Text :=
  encode set text.utf8

/-- The byte that two hexadecimal digits stand for. -/
def byteOfHex? (high low : Char) : Option UInt8 := do
  return UInt8.ofNat (16 * (← hexValue? high) + (← hexValue? low))

/-- The bytes that a part of a URI stands for.  A percent sign without two digits
behind it stands for itself. -/
def decode : Text → Bytes
  | '%' :: high :: low :: rest =>
      match byteOfHex? high low with
      | some byte => byte :: decode rest
      | none => 0x25 :: decode (high :: low :: rest)
  | character :: rest => String.utf8EncodeChar character ++ decode rest
  | [] => []

end PercentCoding

end SelectorNavigation
