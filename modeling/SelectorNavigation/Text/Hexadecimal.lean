import SelectorNavigation.Text.Basic

/-!
# Hexadecimal digits

Digits above nine are written in upper case and read in either case.
-/

namespace SelectorNavigation

/-- A hexadecimal digit as a character, in upper case. -/
def hexDigit (digit : Nat) : Char :=
  if digit < 10 then Char.ofNat (0x30 + digit) else Char.ofNat (0x37 + digit)

/-- The value of a hexadecimal digit in either case. -/
def hexValue? (character : Char) : Option Nat :=
  if '0' ≤ character ∧ character ≤ '9' then some (character.toNat - 0x30)
  else if 'A' ≤ character ∧ character ≤ 'F' then some (character.toNat - 0x37)
  else if 'a' ≤ character ∧ character ≤ 'f' then some (character.toNat - 0x57)
  else none

end SelectorNavigation
