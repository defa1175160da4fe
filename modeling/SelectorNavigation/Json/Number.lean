import SelectorNavigation.Text.Basic

/-!
# JSON numbers

A number is spelled with an optional minus sign, an integer without superfluous
zeros, an optional fraction and an optional exponent.  It is in range when it can
be held as a double.  To decide that, the leading digits that fit in 64 bits and
the power of ten behind them are each rounded to a double, and their product must
not overflow.
-/

namespace SelectorNavigation

namespace Json

/-- The parts of a spelled number, as digit characters. -/
structure NumberParts where
  negative : Bool
  whole : Text
  fraction : Text
  exponentNegative : Bool
  exponent : Text

namespace NumberParts

/-- The value of a digit character. -/
def digit (character : Char) : Nat :=
  character.toNat - 0x30

/-- The largest number that is held exactly. -/
def wordLimit : Nat := 0xFFFFFFFFFFFFFFFF

/-- Append digits to a number while it fits in 64 bits, and count the digits that
are left over from the first one that does not fit. -/
def appendDigits (value : Nat) : Text → Nat × Nat
  | [] => (value, 0)
  | character :: rest =>
      let next := 10 * value + digit character
      if next ≤ wordLimit then appendDigits next rest else (value, rest.length + 1)

/-- The leading digits as a number and the power of ten that they are multiplied
by, the explicit exponent left out. -/
def significand (parts : NumberParts) : Nat × Int :=
  let (whole, wholeLeft) := appendDigits 0 parts.whole
  let (value, fractionLeft) := appendDigits whole parts.fraction
  (value, (wholeLeft : Int) - (parts.fraction.length - fractionLeft : Nat))

/-- The value of the explicit exponent without its sign. -/
def exponentValue (parts : NumberParts) : Nat :=
  parts.exponent.foldl (fun value character => 10 * value + digit character) 0

/-- A natural number rounded to 53 binary digits, a tie to the even neighbour. -/
def roundToDouble (value : Nat) : Nat :=
  let shift := Nat.log2 value - 52
  let unit := Nat.pow 2 shift
  let quotient := value / unit
  let remainder := value % unit
  let roundsUp := unit < 2 * remainder || (2 * remainder == unit && quotient % 2 == 1)
  (if roundsUp then quotient + 1 else quotient) * unit

/-- The number can be held as a double. -/
def inRange (parts : NumberParts) : Bool :=
  let (value, scale) := parts.significand
  let explicit := parts.exponentValue
  if value == 0 || (parts.exponentNegative && 0x80000000 ≤ explicit) then true
  else
    let power := if parts.exponentNegative then scale - explicit else scale + explicit
    if power < 0 then true
    else if 308 < power then false
    else
      roundToDouble (roundToDouble value * roundToDouble (Nat.pow 10 power.toNat)) <
        Nat.pow 2 1024

end NumberParts

/-- Digits at the start of a text, of which there must be at least one. -/
def readDigits? (text : Text) : Option (Text × Text) :=
  match text.takeWhile Char.isDigit with
  | [] => none
  | digits => some (digits, text.dropWhile Char.isDigit)

/-- The integer part of a number: a single zero, or digits that start with another. -/
def readWhole? (text : Text) : Option (Text × Text) :=
  match readDigits? text with
  | some ('0' :: _ :: _, _) => none
  | whole => whole

/-- The fraction behind the integer part, if there is a point. -/
def readFraction? : Text → Option (Text × Text)
  | '.' :: rest => readDigits? rest
  | text => some ([], text)

/-- The sign of an exponent: whether it is negative, and the text behind it. -/
def readExponentSign : Text → Bool × Text
  | '-' :: rest => (true, rest)
  | '+' :: rest => (false, rest)
  | text => (false, text)

/-- The exponent at the end of a number, if there is one. -/
def readExponent? : Text → Option (Bool × Text × Text)
  | character :: rest =>
      if character == 'e' || character == 'E' then do
        let (negative, rest) := readExponentSign rest
        let (digits, rest) ← readDigits? rest
        return (negative, digits, rest)
      else some (false, [], character :: rest)
  | [] => some (false, [], [])

/-- The sign of a number: whether it is negative, and the text behind it. -/
def readSign : Text → Bool × Text
  | '-' :: rest => (true, rest)
  | text => (false, text)

/-- A number at the start of a text and what follows it. -/
def readNumber? (text : Text) : Option (NumberParts × Text) := do
  let (negative, rest) := readSign text
  let (whole, rest) ← readWhole? rest
  let (fraction, rest) ← readFraction? rest
  let (exponentNegative, exponent, rest) ← readExponent? rest
  return ({ negative, whole, fraction, exponentNegative, exponent }, rest)

end Json

end SelectorNavigation
