import SelectorNavigation.Text.Hexadecimal

/-!
# IPv4 addresses

A host whose last part is a number is an IPv4 address of at most four parts.  A part is
written in decimal, in octal behind a zero, or in hexadecimal behind `0x`.  The last
part fills the bytes that the other parts leave, so `127.1` is `127.0.0.1`.
-/

namespace SelectorNavigation

/-- An IPv4 address. -/
structure Ipv4 where
  bits : UInt32
deriving DecidableEq, Repr

namespace Ipv4

/-- The bytes of an address, the most significant one first. -/
def bytes (address : Ipv4) : List Nat :=
  [24, 16, 8, 0].map fun shift => address.bits.toNat / Nat.pow 2 shift % 256

/-- The address with its bytes in decimal. -/
def toText (address : Ipv4) : Text :=
  ['.'].intercalate (address.bytes.map (Nat.toDigits 10))

/-- The number that digits stand for, if all of them are digits of the base. -/
def readDigits? (base : Nat) (digits : Text) : Option Nat :=
  digits.foldlM (fun number digit => do
    let value ← hexValue? digit
    if value < base then some (base * number + value) else none) 0

/-- The number in one part of an address. -/
def readPart? : Text → Option Nat
  | [] => none
  | '0' :: mark :: digits =>
      if mark == 'x' || mark == 'X' then readDigits? 16 digits
      else readDigits? 8 (mark :: digits)
  | digits => readDigits? 10 digits

/-- The parts of a host.  A dot at its end does not count. -/
def partsOf (host : Text) : List Text :=
  let parts := host.splitOn '.'
  if 1 < parts.length && parts.getLast? == some [] then parts.dropLast else parts

/-- A host that has to be read as an address, because its last part is a number or looks
like a decimal one. -/
def isNumeric (host : Text) : Bool :=
  (partsOf host).getLast?.any fun last =>
    (!last.isEmpty && last.all Char.isDigit) || (readPart? last).isSome

/-- The address whose parts are the given numbers, of which the last one fills the bytes
that the others leave. -/
def ofParts? (numbers : List Nat) : Option Ipv4 := do
  let last ← numbers.getLast?
  let leading := numbers.dropLast
  let isInRange := leading.length < 4 && leading.all (· < 256) &&
    last < Nat.pow 256 (4 - leading.length)
  if isInRange then
    let upper := leading.foldl (fun value byte => 256 * value + byte) 0
    some ⟨UInt32.ofNat (upper * Nat.pow 256 (4 - leading.length) + last)⟩
  else none

/-- Read an address. -/
def read? (host : Text) : Option Ipv4 := do
  ofParts? (← (partsOf host).mapM readPart?)

end Ipv4

end SelectorNavigation
