import SelectorNavigation.Text.Hexadecimal
import SelectorNavigation.Text.Printable

/-!
# Quoted text

Messages to the client show paths in double quotes.  The quote, the backslash and
characters that are not printable are escaped there, and so is every byte that is
not part of a character.
-/

namespace SelectorNavigation

/-- One character of a quoted text. -/
def quotedChar (character : Char) : Text :=
  if character == '\t' then ['\\', 't']
  else if character == '\n' then ['\\', 'n']
  else if character == '\r' then ['\\', 'r']
  else if character == '\x00' then ['\\', '0']
  else if character == '"' || character == '\\' then ['\\', character]
  else if isPrintable character then [character]
  else ['\\', 'u', '\x7b'] ++ Nat.toDigits 16 character.toNat ++ ['\x7d']

/-- One byte of a quoted text that is not part of a character. -/
def quotedByte (byte : UInt8) : Text :=
  ['\\', 'x', hexDigit (byte.toNat / 16), hexDigit (byte.toNat % 16)]

namespace Bytes

/-- The character whose UTF-8 encoding the bytes start with. -/
def firstChar? (bytes : Bytes) : Option Char :=
  (bytes.take 4).toByteArray.utf8DecodeChar? 0

/-- Bytes between quotes, the first `skip` of them left out because they belong to
a character that is already written. -/
def quotedFrom (skip : Nat) : Bytes → Text
  | [] => []
  | byte :: rest =>
      match skip with
      | skip + 1 => quotedFrom skip rest
      | 0 =>
          match firstChar? (byte :: rest) with
          | some character => quotedChar character ++ quotedFrom (character.utf8Size - 1) rest
          | none => quotedByte byte ++ quotedFrom 0 rest

/-- Bytes in double quotes. -/
def quoted (bytes : Bytes) : Text :=
  ['"'] ++ bytes.quotedFrom 0 ++ ['"']

end Bytes

end SelectorNavigation
